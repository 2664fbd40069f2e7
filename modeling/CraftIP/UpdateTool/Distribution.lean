import CraftIP.Lib.Lts
import CraftIP.UpdateTool.Release

/-!
# The distribution of updates

The tool releases updates, and the program of one machine updates itself when it is started
(`updater_no_consent` in `client-gui/src/updater_gui.rs`). Whoever answers the requests may serve any document and
any bytes. Processes are started at any time; one that has found a newer version installs it whenever it gets
there, also when another has installed one in between. All the same the program on the machine is the first one
or an executable that was released, for the version that it says it is, and that is newer than the first
(`installed`).
-/

namespace CraftIP

namespace Updater
variable {Version : Type} {U : UpdaterCrates Version} {results : Nat → Except String Nat} {env : UpdateEnv}
  {updater : Updater} {archive executable : List UInt8}

theorem verifiedArchive_eq_ok (h : updater.verifiedArchive U env = .ok archive) :
    ∃ src, env.call updater.target.url = .ok src ∧ archive = body src ∧
      verifySignature U (U.sha512.hash archive) updater.version updater.target.signature = .ok () := by
  simp only [verifiedArchive] at h
  split at h
  · cases h
  split at h
  · cases h
  next src hsrc =>
  split at h
  · cases h
  split at h
  · cases h
  next hash out hdownload =>
  obtain ⟨rfl, rfl⟩ := download_eq_ok hdownload
  split at h
  · cases h
  next hverify =>
  cases h
  exact ⟨src, hsrc, rfl, hverify⟩

/-- Where no write fails, `update` leaves the program or replaces it by all that a verified archive unpacks to. -/
theorem updateInto_cases (hwrites : ∀ i, ¬ File.Fails results i) :
    (updater.updateInto U results env executable).2 = executable ∨
      ∃ archive, updater.verifiedArchive U env = .ok archive ∧ Readable (U.xzReads archive) ∧
        (updater.updateInto U results env executable).2 = (pieces (U.xzReads archive)).flatten := by
  rw [updateInto]
  cases harchive : updater.verifiedArchive U env with
  | error e => exact .inl rfl
  | ok archive =>
    simp only
    rcases hrun : decompressInto U results env archive with ⟨e | ⟨⟩, dest⟩
    · exact .inl rfl
    · obtain ⟨hread, hw⟩ := (LastBlockWritten.of_not_fails hwrites).writes hrun
      simp only
      cases env.selfReplace dest.content with
      | error e => exact .inl rfl
      | ok _ => exact .inr ⟨archive, rfl, hread, hw.content⟩

end Updater

namespace UpdateTool
open Updater (pieces Readable body)

/-- An archive that was signed for a version, and the executable from which it was made. -/
structure Released where
  version : String
  archive : List UInt8
  executable : List UInt8

/-- The program of the machine, what has been released, and the processes that have found a newer version, each
with the version it found. -/
structure Distribution where
  program : List UInt8
  released : List Released
  updaters : List Updater

inductive DistributionAction where
  /-- The tool builds a release. -/
  | release (env : BuildEnv) (version : String)
  /-- A process starts and gets the response for the document. -/
  | start (response : Except String (Except String LatestRelease))
  /-- The process with the number goes on with `update`. -/
  | update (k : Nat) (client : UpdateEnv) (results : Nat → Except String Nat)

variable {Version Key : Type} (T : ToolCrates Version Key) (versionOf : List UInt8 → String)

def releasedBy (env : BuildEnv) (version : String) (build : Build) : List Released :=
  build.binaries.filterMap fun b =>
    (env.readExecutable b.json.target).map fun executable => ⟨version, b.archive, executable⟩

namespace Distribution

/-- `versionOf` is the `CURRENT_VERSION` of a program. -/
def step [LinearOrder Version] (c : Distribution) : DistributionAction → Option Distribution
  | .release env version =>
    (buildUpdate T env version).map fun build => { c with released := c.released ++ releasedBy env version build }
  | .start response =>
    match Updater.new T.toUpdaterCrates (versionOf c.program) response with
    | .ok (some updater) => some { c with updaters := c.updaters ++ [updater] }
    | _ => some c
  | .update k client results =>
    match c.updaters[k]? with
    | none => none
    | some updater =>
      some { c with
        program := (updater.updateInto T.toUpdaterCrates results client c.program).2
        updaters := c.updaters.eraseIdx k }

/-- A released executable has the version of the release, and an archive that was tested has unpacked to the
executable if the hashes are the same. A signature is accepted only for what was released, and the body that was
served is the released archive if the hashes are the same. The disk takes what is unpacked. -/
def Confined (c : Distribution) : DistributionAction → Prop
  | .release env version =>
    (∀ target executable, env.readExecutable target = some executable → versionOf executable = version) ∧
    (∀ target i, ¬ File.Fails (env.testWrites target) i) ∧
    ∀ build, buildUpdate T env version = some build → ∀ x ∈ releasedBy env version build,
      T.sha512.hash (pieces (T.xzReads x.archive)).flatten = T.sha512.hash x.executable →
        (pieces (T.xzReads x.archive)).flatten = x.executable
  | .start _ => True
  | .update k client results =>
    (∀ i, ¬ File.Fails results i) ∧ ∀ updater ∈ c.updaters[k]?, ∀ src, client.call updater.target.url = .ok src →
      (∀ signature, T.base64Decode updater.target.signature = .ok signature →
        T.verifyEd25519 DISTRIBUTION_PUBLIC_KEY (getBytesForSignature (T.sha512.hash (body src)) updater.version)
          signature = true →
        ∃ x ∈ c.released, getBytesForSignature (T.sha512.hash (body src)) updater.version =
          getBytesForSignature (T.sha512.hash x.archive) x.version) ∧
      ∀ x ∈ c.released, T.sha512.hash (body src) = T.sha512.hash x.archive → body src = x.archive

variable {T versionOf}

/-- What is released unpacks to an executable that has its version. -/
structure Released.Good (T : ToolCrates Version Key) (versionOf : List UInt8 → String) (x : Released) : Prop where
  version : versionOf x.executable = x.version
  unpacks : (pieces (T.xzReads x.archive)).flatten = x.executable

theorem good_of_releasedBy {c : Distribution} {env : BuildEnv} {version : String} {build : Build}
    (hcond : c.Confined T versionOf (.release env version)) (hbuild : buildUpdate T env version = some build)
    {x : Released} (hx : x ∈ releasedBy env version build) : Released.Good T versionOf x := by
  obtain ⟨hversion, hwrites, hunpacks⟩ := hcond
  have hcollision := hunpacks build hbuild x hx
  obtain ⟨b, hb, hmap⟩ := List.mem_filterMap.1 hx
  obtain ⟨executable, hexe, rfl⟩ := Option.map_eq_some_iff.1 hmap
  refine ⟨hversion _ _ hexe, hcollision ?_⟩
  obtain ⟨target, -, htested⟩ := exists_of_forall₂_right (buildUpdate_eq_some hbuild).1 hb
  obtain ⟨executable', hexe', htest⟩ := htested.tested
  rw [← htested.target_eq, hexe] at hexe'
  cases hexe'
  obtain ⟨-, -, file, hrun, hhash⟩ := testArchive_eq_some.1 htest
  have hfile := ((Updater.LastBlockWritten.of_not_fails (hwrites target)).writes hrun).2.content
  rw [← hhash, hfile]
  rfl

/-- A verified archive is one that was released for the version that the process found. -/
theorem exists_released_of_verified {c : Distribution} {k : Nat} {client : UpdateEnv} {results : Nat → Except String Nat}
    (hcond : c.Confined T versionOf (.update k client results)) {updater : Updater}
    (hk : c.updaters[k]? = some updater) {archive : List UInt8}
    (harchive : updater.verifiedArchive T.toUpdaterCrates client = .ok archive) :
    ∃ x ∈ c.released, x.archive = archive ∧ x.version = updater.version := by
  obtain ⟨src, hcall, rfl, hverify⟩ := Updater.verifiedArchive_eq_ok harchive
  obtain ⟨signature, hdecode, haccepted⟩ := Updater.verifySignature_eq_ok hverify
  obtain ⟨hunforged, hcollision⟩ := hcond.2 updater hk src hcall
  obtain ⟨x, hx, hmessage⟩ := hunforged signature hdecode haccepted
  obtain ⟨hhash, hversion⟩ := Updater.getBytesForSignature_inj hmessage
  exact ⟨x, hx, (hcollision x hx hhash).symm, hversion.symm⟩

variable [LinearOrder Version]

/-- The program is the first, or was released with a version that is newer; the versions found are newer than
that of the first. -/
structure Genuine (T : ToolCrates Version Key) (versionOf : List UInt8 → String) (first : List UInt8) (v₀ : Version)
    (c : Distribution) : Prop where
  program : c.program = first ∨ ∃ x ∈ c.released, c.program = x.executable ∧ versionOf x.executable = x.version ∧
    ∃ v, T.parseVersion x.version = some v ∧ v₀ < v
  released : ∀ x ∈ c.released, Released.Good T versionOf x
  updaters : ∀ updater ∈ c.updaters, ∃ v, T.parseVersion updater.version = some v ∧ v₀ < v

variable {first : List UInt8} {v₀ : Version} {c c' : Distribution}

theorem Genuine.init (first : List UInt8) (v₀ : Version) : Genuine T versionOf first v₀ ⟨first, [], []⟩ where
  program := .inl rfl
  released _ h := by cases h
  updaters _ h := by cases h

/-- The version of the program is not older than the first. -/
theorem Genuine.le_version (h : Genuine T versionOf first v₀ c) (hfirst : T.parseVersion (versionOf first) = some v₀) :
    ∃ v, T.parseVersion (versionOf c.program) = some v ∧ v₀ ≤ v := by
  rcases h.program with hp | ⟨x, -, hp, hversion, v, hv, hlt⟩
  · exact ⟨v₀, by rw [hp, hfirst], le_rfl⟩
  · exact ⟨v, by rw [hp, hversion, hv], hlt.le⟩

theorem Genuine.start (h : Genuine T versionOf first v₀ c) (hfirst : T.parseVersion (versionOf first) = some v₀)
    {updater : Updater} {response : Except String (Except String LatestRelease)}
    (hnew : Updater.new T.toUpdaterCrates (versionOf c.program) response = .ok (some updater)) :
    Genuine T versionOf first v₀ { c with updaters := c.updaters ++ [updater] } := by
  refine { h with updaters := fun updater' hmem => ?_ }
  rcases List.mem_append.1 hmem with hmem | hmem
  · exact h.updaters updater' hmem
  · rw [List.mem_singleton.1 hmem]
    obtain ⟨release, version, current, -, hversion, hcurrent, hnewer, -, hupdater⟩ := Updater.new_eq_some hnew
    obtain ⟨v, hv, hle⟩ := h.le_version hfirst
    rw [hv] at hcurrent
    cases hcurrent
    exact ⟨version, by rw [hupdater]; exact hversion, lt_of_le_of_lt hle hnewer⟩

theorem Genuine.update (h : Genuine T versionOf first v₀ c) {k : Nat} {client : UpdateEnv}
    {results : Nat → Except String Nat} (hcond : c.Confined T versionOf (.update k client results)) {updater : Updater}
    (hk : c.updaters[k]? = some updater) :
    Genuine T versionOf first v₀ { c with
      program := (updater.updateInto T.toUpdaterCrates results client c.program).2
      updaters := c.updaters.eraseIdx k } := by
  have hupdaters : ∀ updater ∈ c.updaters.eraseIdx k, ∃ v, T.parseVersion updater.version = some v ∧ v₀ < v :=
    fun updater hmem => h.updaters updater (List.mem_of_mem_eraseIdx hmem)
  refine ⟨?_, h.released, hupdaters⟩
  rcases Updater.updateInto_cases hcond.1 with hp | ⟨archive, harchive, -, hp⟩
  · show (updater.updateInto T.toUpdaterCrates results client c.program).2 = first ∨ _
    rw [hp]
    exact h.program
  · obtain ⟨x, hx, rfl, hversion⟩ := exists_released_of_verified hcond hk harchive
    obtain ⟨v, hv, hlt⟩ := h.updaters updater (List.mem_of_getElem? hk)
    have hgood := h.released x hx
    exact .inr ⟨x, hx, hp.trans hgood.unpacks, hgood.version, v, by rw [hversion]; exact hv, hlt⟩

theorem Genuine.step {a : DistributionAction} (h : Genuine T versionOf first v₀ c)
    (hfirst : T.parseVersion (versionOf first) = some v₀) (hcond : c.Confined T versionOf a)
    (hs : c.step T versionOf a = some c') : Genuine T versionOf first v₀ c' := by
  cases a with
  | release env version =>
    obtain ⟨build, hbuild, rfl⟩ := Option.map_eq_some_iff.1 hs
    refine ⟨?_, fun x hx => ?_, h.updaters⟩
    · rcases h.program with hp | ⟨x, hx, hp⟩
      · exact .inl hp
      · exact .inr ⟨x, List.mem_append_left _ hx, hp⟩
    · rcases List.mem_append.1 hx with hx | hx
      · exact h.released x hx
      · exact good_of_releasedBy hcond hbuild hx
  | start response =>
    simp only [Distribution.step] at hs
    split at hs
    · next updater hnew =>
      cases hs
      exact h.start hfirst hnew
    · cases hs
      exact h
  | update k client results =>
    simp only [Distribution.step] at hs
    split at hs
    · cases hs
    · next updater hk =>
      cases hs
      exact h.update hcond hk

/-- In every run the program is the first one, or a released executable that is newer than it and has the version
of its release. -/
theorem installed (hfirst : T.parseVersion (versionOf first) = some v₀)
    (h : Lts.Reach (step T versionOf) (Confined T versionOf) ⟨first, [], []⟩ c) :
    c.program = first ∨ ∃ x ∈ c.released, c.program = x.executable ∧ versionOf x.executable = x.version ∧
      ∃ v, T.parseVersion x.version = some v ∧ v₀ < v :=
  (h.invariant (I := Genuine T versionOf first v₀) (.init first v₀)
    fun _ ih hcond hs => ih.step hfirst hcond hs).program

/-! ### A first release -/

def sampleVersionOf (program : List UInt8) : String := if program = [110, 101, 119] then "0.2.0" else "0.1.0"

/-- The release is made, a process finds it, and installs it. -/
def releaseAndUpdate : List DistributionAction :=
  [.release sampleEnv "0.2.0", .start (.ok (.ok sampleBuild.release)), .update 0 sampleClient fun _ => .ok 8192]

theorem confined_release :
    Confined sampleCrates sampleVersionOf ⟨[111, 108, 100], [], []⟩ (.release sampleEnv "0.2.0") := by
  refine ⟨fun target executable h => ?_, fun _ => not_fails_of_ok (by decide), fun build hbuild x hx _ => ?_⟩
  · cases h
    rfl
  · cases buildUpdate_sample.symm.trans hbuild
    obtain ⟨b, hb, hmap⟩ := List.mem_filterMap.1 hx
    obtain ⟨target, -, rfl⟩ := List.mem_map.1 hb
    cases hmap
    rfl

theorem confined_update {c : Distribution} {updater : Updater} (hupdaters : c.updaters = [updater])
    (hversion : updater.version = "0.2.0")
    (hreleased : ⟨"0.2.0", sampleArchive, [110, 101, 119]⟩ ∈ c.released ∧ ∀ x ∈ c.released, x.archive = sampleArchive) :
    Confined sampleCrates sampleVersionOf c (.update 0 sampleClient fun _ => .ok 8192) := by
  refine ⟨not_fails_of_ok (by decide), fun updater' h src hsrc => ?_⟩
  rw [hupdaters] at h
  cases h
  cases hsrc
  refine ⟨fun _ _ _ => ⟨_, hreleased.1, by rw [hversion]; rfl⟩, fun x hx _ => ?_⟩
  rw [hreleased.2 x hx]
  rfl

theorem installed_releaseAndUpdate :
    ∃ c, Lts.run (step sampleCrates sampleVersionOf) ⟨[111, 108, 100], [], []⟩ releaseAndUpdate = some c ∧
      c.program = [110, 101, 119] ∧ ∃ x ∈ c.released, c.program = x.executable ∧
        sampleVersionOf x.executable = x.version ∧ ∃ v, sampleCrates.parseVersion x.version = some v ∧ 1 < v := by
  let c : Distribution := ⟨[111, 108, 100], releasedBy sampleEnv "0.2.0" sampleBuild, []⟩
  let updater : Updater := ⟨(sampleBuilt "x86_64-apple-darwin").json, "0.2.0", ""⟩
  have hrelease : Lts.Reach (step sampleCrates sampleVersionOf) (Confined sampleCrates sampleVersionOf)
      ⟨[111, 108, 100], [], []⟩ c := .step .init confined_release rfl
  have hstart : Lts.Reach (step sampleCrates sampleVersionOf) (Confined sampleCrates sampleVersionOf)
      ⟨[111, 108, 100], [], []⟩ { c with updaters := [updater] } :=
    .step (a := .start (.ok (.ok sampleBuild.release))) hrelease trivial rfl
  have hreleased : ∀ x ∈ c.released, x.archive = sampleArchive := by
    intro x hx
    obtain ⟨b, hb, hmap⟩ := List.mem_filterMap.1 hx
    obtain ⟨target, -, rfl⟩ := List.mem_map.1 hb
    cases hmap
    rfl
  have hupdate := hstart.step (confined_update rfl rfl ⟨List.mem_cons_self, hreleased⟩) rfl
  refine ⟨_, rfl, rfl, ?_⟩
  exact (@installed _ _ sampleCrates sampleVersionOf _ _ 1 _ rfl hupdate).resolve_left (by decide)

end Distribution
end UpdateTool
end CraftIP
