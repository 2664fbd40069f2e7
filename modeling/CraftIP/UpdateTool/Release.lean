import CraftIP.UpdateTool
import Mathlib.Data.List.Perm.Subperm

/-!
# Released updates

Three things about `build_update` and `verify_release_json`. With the key of the distribution and a disk that
takes every write a build completes, and what it made passes the check (`build_completes`). What a build made is
what the updater installs: the hash of the new program is that of the executable, even where the disk lost a part
of the archive while it was built (`release_installs`). And a release that passes the check is good for an updater
on every platform that it names; the check counts the targets, so it names all of them exactly when it names none
twice (`staging_passed`).
-/

namespace CraftIP

namespace Updater
variable {Version : Type} {U : UpdaterCrates Version} {results : Nat → Except String Nat} {env : UpdateEnv}
  {archive : List UInt8}

theorem LastBlockWritten.of_not_fails (hwrites : ∀ i, ¬ File.Fails results i) :
    LastBlockWritten U results env archive := by
  intro _ _ _ f _
  obtain ⟨f', hwrite⟩ := File.writeAll_of_not_fails hwrites f (writtenBlocks U archive).2
  rw [hwrite]

/-- With writes that do not fail, an archive that can be read is decompressed. -/
theorem decompressInto_of_readable (hwrites : ∀ i, ¬ File.Fails results i) (hopen : env.openArchive = .ok ())
    (hcreate : env.createExe = .ok ()) (hread : Readable (U.xzReads archive)) :
    ∃ dest, decompressInto U results env archive = (.ok (), dest) ∧
      dest.content = (pieces (U.xzReads archive)).flatten := by
  obtain ⟨f, hblocks⟩ := File.writeBlocks_of_not_fails hwrites .empty (writtenBlocks U archive).1
  have hok := decompressInto_eq_ok_iff.2 ⟨hopen, hcreate, hread, f, hblocks, rfl⟩
  exact ⟨_, hok, ((LastBlockWritten.of_not_fails hwrites).writes hok).2.content⟩

end Updater

/-- Nothing fails but what depends on the archive. -/
structure UpdateEnv.Works (client : UpdateEnv) : Prop where
  tempDir : client.tempDir = .ok ()
  createArchive : client.createArchive = .ok ()
  openArchive : client.openArchive = .ok ()
  createExe : client.createExe = .ok ()
  selfReplace : ∀ newExe, client.selfReplace newExe = .ok ()

namespace UpdateTool
open Updater (decompressInto decompressIntoLoop verifySignature pieces Readable sampleSignature sampleSignatureText)

/-- The binaries are served at their addresses, in any pieces. -/
def Build.Serves (build : Build) (call : String → Except String (List (Except String (List UInt8)))) : Prop :=
  ∀ b ∈ build.binaries, ∃ src, call b.json.url = .ok src ∧ readToEnd src = some b.archive

variable {Version Key : Type} {T : ToolCrates Version Key}

theorem exists_of_forall₂_left {α β : Type} {R : α → β → Prop} {l : List α} {l' : List β} (h : List.Forall₂ R l l')
    {a : α} (ha : a ∈ l) : ∃ b ∈ l', R a b := by
  induction h with
  | nil => cases ha
  | cons hab _ ih =>
    rcases List.mem_cons.1 ha with rfl | ha
    · exact ⟨_, List.mem_cons_self, hab⟩
    · obtain ⟨b, hb, hR⟩ := ih ha
      exact ⟨b, List.mem_cons_of_mem _ hb, hR⟩

theorem exists_of_forall₂_right {α β : Type} {R : α → β → Prop} {l : List α} {l' : List β} (h : List.Forall₂ R l l')
    {b : β} (hb : b ∈ l') : ∃ a ∈ l, R a b :=
  exists_of_forall₂_left h.flip hb

/-! ### What a build made is installed -/

/-- A tested archive is installed, and the program has the hash of the executable. -/
theorem Tested.installs {env : BuildEnv} {version target : String} {b : Built} (h : Tested T env version target b)
    (htest : ∀ i, ¬ File.Fails (env.testWrites target) i) {updater : Updater} (htarget : updater.target = b.json)
    (hversion : updater.version = version) {client : UpdateEnv} (hclient : client.Works)
    {src : List (Except String (List UInt8))} (hcall : client.call b.json.url = .ok src)
    (hread : readToEnd src = some b.archive) {results : Nat → Except String Nat}
    (hresults : ∀ i, ¬ File.Fails results i) (program : List UInt8) :
    ∃ executable program', env.readExecutable target = some executable ∧
      updater.updateInto T.toUpdaterCrates results client program = (.ok (), program') ∧
      T.sha512.hash program' = T.sha512.hash executable := by
  obtain ⟨executable, hexe, htested⟩ := h.tested
  obtain ⟨-, -, file, hrun, hhash⟩ := testArchive_eq_some.1 htested
  obtain ⟨hreadable, hfile⟩ := (Updater.LastBlockWritten.of_not_fails htest).writes hrun
  obtain ⟨dest, hdest, hcontent⟩ :=
    Updater.decompressInto_of_readable hresults hclient.openArchive hclient.createExe hreadable
  have harchive : updater.verifiedArchive T.toUpdaterCrates client = .ok b.archive := by
    refine verifiedArchive_of hclient.tempDir hclient.createArchive (htarget.symm ▸ hcall) hread ?_
    rw [htarget, hversion]
    exact h.verified
  refine ⟨executable, dest.content, hexe, ?_, ?_⟩
  · simp only [Updater.updateInto, harchive, hdest, hclient.selfReplace]
  · rw [hcontent, ← hhash, hfile.content]
    rfl

/-- Whatever the disk did with the archives: where the build completed, the updater of every platform of the
list installs a program with the hash of that platform's executable. -/
theorem release_installs [LinearOrder Version] {env : BuildEnv} {version : String} {build : Build}
    (hbuild : buildUpdate T env version = some build)
    (htest : ∀ target i, ¬ File.Fails (env.testWrites target) i) (hplatform : T.CURRENT_PLATFORM ∈ TARGETS)
    {v current : Version} {currentVersion : String} (hv : T.parseVersion version = some v)
    (hcurrent : T.parseVersion currentVersion = some current) (hnewer : current < v) {client : UpdateEnv}
    (hclient : client.Works) (hserves : build.Serves client.call) {results : Nat → Except String Nat}
    (hresults : ∀ i, ¬ File.Fails results i) (program : List UInt8) :
    ∃ updater executable program',
      Updater.new T.toUpdaterCrates currentVersion (.ok (.ok build.release)) = .ok (some updater) ∧
      env.readExecutable T.CURRENT_PLATFORM = some executable ∧
      updater.updateInto T.toUpdaterCrates results client program = (.ok (), program') ∧
      T.sha512.hash program' = T.sha512.hash executable := by
  obtain ⟨hbinaries, hversion, htargets⟩ := buildUpdate_eq_some hbuild
  have hnamed : ∃ target ∈ build.release.targets, target.target = T.CURRENT_PLATFORM := by
    obtain ⟨b, hb, hb'⟩ := exists_of_forall₂_left hbinaries hplatform
    exact ⟨b.json, htargets ▸ List.mem_map_of_mem hb, hb'.target_eq⟩
  obtain ⟨target, hmem, htarget, hnew⟩ := new_of_newer (hversion.symm ▸ hv) hcurrent hnewer hnamed
  rw [htargets] at hmem
  obtain ⟨b, hb, rfl⟩ := List.mem_map.1 hmem
  obtain ⟨platform, -, hb'⟩ := exists_of_forall₂_right hbinaries hb
  obtain rfl : platform = T.CURRENT_PLATFORM := hb'.target_eq.symm.trans htarget
  obtain ⟨src, hcall, hread⟩ := hserves b hb
  obtain ⟨executable, program', hexe, hupdate, hhash⟩ :=
    @Tested.installs _ _ T env version _ b hb' (htest _) ⟨b.json, build.release.version, build.release.changelog⟩
      rfl hversion client hclient src hcall hread results hresults program
  exact ⟨_, executable, program', hnew, hexe, hupdate, hhash⟩

/-! ### The check of a release -/

theorem verifyTarget_eq_some {env : StagingEnv} {version : String} {target : Target} :
    verifyTarget T env version target = some () ↔
      target.target ∈ TARGETS ∧ ∃ src resp archive left, env.call target.url = .ok src ∧ readToEnd src = some resp ∧
        env.createArchive target.target = some () ∧
        File.empty.writeAll (env.archiveWrites target.target) resp = (.ok (), left, archive) ∧
        env.readArchive target.target = some () ∧
        verifySignatureOfFile T archive.content target version = some () := by
  rw [verifyTarget]
  split
  · next hname =>
    cases hcall : env.call target.url with
    | error e => exact iff_of_false (fun h => by cases h) fun ⟨_, _, _, _, _, h, _⟩ => by cases h
    | ok src =>
      simp only [Option.bind_eq_bind, Option.bind_eq_some_iff]
      constructor
      · rintro ⟨resp, hread, _, hcreate, h⟩
        rcases hwrite : File.empty.writeAll (env.archiveWrites target.target) resp with ⟨e | u, left, archive⟩
        · rw [hwrite] at h
          cases h
        · rw [hwrite] at h
          obtain ⟨_, hfile, hverified⟩ := Option.bind_eq_some_iff.1 h
          exact ⟨hname, src, resp, archive, left, rfl, hread, hcreate, hwrite, hfile, hverified⟩
      · rintro ⟨-, _, resp, archive, left, hsrc, hread, hcreate, hwrite, hfile, hverified⟩
        cases hsrc
        refine ⟨resp, hread, (), hcreate, ?_⟩
        rw [hwrite]
        exact Option.bind_eq_some_iff.2 ⟨(), hfile, hverified⟩
  · next hname => exact iff_of_false (fun h => by cases h) fun h => hname h.1

/-- A checked target: its address serves an archive for which the document is right. -/
theorem verified_of_verifyTarget {env : StagingEnv} {version : String} {target : Target}
    (h : verifyTarget T env version target = some ()) :
    target.target ∈ TARGETS ∧ ∃ src archive, env.call target.url = .ok src ∧ readToEnd src = some archive ∧
      verifySignatureOfFile T archive target version = some () := by
  obtain ⟨hname, src, resp, archive, left, hcall, hread, -, hwrite, -, hverified⟩ := verifyTarget_eq_some.1 h
  refine ⟨hname, src, resp, hcall, hread, ?_⟩
  rcases @File.writeAll_cases _ (env.archiveWrites target.target) .empty resp with
    ⟨f, hok, hw⟩ | ⟨e, left', f, herror, -⟩
  · cases hok.symm.trans hwrite
    rwa [hw.content] at hverified
  · cases herror.symm.trans hwrite

theorem verifyTargets_eq_some {env : StagingEnv} {version : String} {targets : List Target} :
    verifyTargets T env version targets = some () ↔
      ∀ target ∈ targets, verifyTarget T env version target = some () := by
  induction targets with
  | nil => exact iff_of_true rfl fun _ h => by cases h
  | cons target targets ih =>
    simp only [verifyTargets, Option.bind_eq_bind, Option.bind_eq_some_iff, List.forall_mem_cons, ← ih]
    exact ⟨fun ⟨_, h, h'⟩ => ⟨h, h'⟩, fun ⟨h, h'⟩ => ⟨(), h, h'⟩⟩

theorem verifyReleaseJson_eq_some {env : StagingEnv} {release : LatestRelease} :
    verifyReleaseJson T env (.ok (.ok release)) = some () ↔
      env.tempDir = some () ∧ release.targets.length = TARGETS.length ∧
        ∀ target ∈ release.targets, verifyTarget T env release.version target = some () := by
  simp only [verifyReleaseJson, Option.bind_eq_bind, Option.bind_eq_some_iff]
  constructor
  · rintro ⟨_, hdir, h⟩
    split at h
    · next hlen => exact ⟨hdir, hlen, verifyTargets_eq_some.1 h⟩
    · cases h
  · rintro ⟨hdir, hlen, h⟩
    exact ⟨(), hdir, by rw [if_pos hlen]; exact verifyTargets_eq_some.2 h⟩

/-- As many names as platforms, all of them platforms: every platform is named if and only if none is named
twice. -/
theorem covers_iff {names : List String} (hlen : names.length = TARGETS.length) (hsub : ∀ n ∈ names, n ∈ TARGETS) :
    (∀ platform ∈ TARGETS, platform ∈ names) ↔ names.Nodup := by
  have hnodup : TARGETS.Nodup := by decide
  constructor
  · intro hcovers
    have hperm := (List.subperm_of_subset hnodup hcovers).perm_of_length_le hlen.le
    exact hperm.nodup_iff.1 hnodup
  · intro hdistinct platform hplatform
    have hperm := (List.subperm_of_subset hdistinct hsub).perm_of_length_le hlen.ge
    exact hperm.mem_iff.2 hplatform

/-- A release that passes the check: an updater on a platform that it names downloads an archive of the size in
the document whose signature is good; and the platforms of the list are all named exactly if no name comes
twice. -/
theorem staging_passed [LinearOrder Version] {env : StagingEnv} {release : LatestRelease}
    (h : verifyReleaseJson T env (.ok (.ok release)) = some ()) :
    (∀ {v current : Version} {currentVersion : String} {client : UpdateEnv},
      T.parseVersion release.version = some v → T.parseVersion currentVersion = some current → current < v →
      (∃ target ∈ release.targets, target.target = T.CURRENT_PLATFORM) → client.Works → client.call = env.call →
      ∃ updater archive, Updater.new T.toUpdaterCrates currentVersion (.ok (.ok release)) = .ok (some updater) ∧
        updater.verifiedArchive T.toUpdaterCrates client = .ok archive ∧
        archive.length = updater.target.size.toNat ∧ archive ≠ []) ∧
    ((∀ platform ∈ TARGETS, ∃ target ∈ release.targets, target.target = platform) ↔
      (release.targets.map Target.target).Nodup) := by
  obtain ⟨-, hlen, hall⟩ := verifyReleaseJson_eq_some.1 h
  constructor
  · intro v current currentVersion client hv hcurrent hnewer hplatform hclient hcall
    obtain ⟨target, hmem, -, hnew⟩ := new_of_newer hv hcurrent hnewer hplatform
    obtain ⟨-, src, archive, hsrc, hread, hverified⟩ := verified_of_verifyTarget (hall target hmem)
    obtain ⟨⟨hsize, hne⟩, -⟩ := verifySignatureOfFile_eq_some.1 hverified
    refine ⟨_, archive, hnew, ?_, hsize, fun he => hne (by rw [he]; rfl)⟩
    exact verifiedArchive_of hclient.tempDir hclient.createArchive (hcall ▸ hsrc) hread hverified
  · have hcovers := @covers_iff (release.targets.map Target.target) (by rwa [List.length_map]) fun n hn => by
      obtain ⟨target, hmem, rfl⟩ := List.mem_map.1 hn
      exact (verified_of_verifyTarget (hall target hmem)).1
    simpa only [List.mem_map] using hcovers

/-! ### A build completes -/

/-- Nothing fails but what depends on the archives. -/
structure StagingEnv.Works (env : StagingEnv) : Prop where
  tempDir : env.tempDir = some ()
  createArchive : ∀ target, env.createArchive target = some ()
  archiveWrites : ∀ target i, ¬ File.Fails (env.archiveWrites target) i
  readArchive : ∀ target, env.readArchive target = some ()

/-- What a build made passes the check. -/
theorem Tested.verifyTarget_eq_some {env : BuildEnv} {version target : String} {b : Built}
    (h : Tested T env version target b) (htarget : target ∈ TARGETS) {staging : StagingEnv} (hworks : staging.Works)
    {src : List (Except String (List UInt8))} (hcall : staging.call b.json.url = .ok src)
    (hread : readToEnd src = some b.archive) : verifyTarget T staging version b.json = some () := by
  have hname : b.json.target ∈ TARGETS := h.target_eq.symm ▸ htarget
  rcases @File.writeAll_cases _ (staging.archiveWrites b.json.target) .empty b.archive with
    ⟨f, hwrite, hw⟩ | ⟨e, left, f, -, hb⟩
  · have hcontent : f.content = b.archive := hw.content
    exact UpdateTool.verifyTarget_eq_some.2 ⟨hname, src, b.archive, f, [], hcall, hread, hworks.createArchive _,
      hwrite, hworks.readArchive _, by rw [hcontent]; exact h.verified⟩
  · obtain ⟨i, -, -, hi⟩ := hb.fails
    exact absurd hi (hworks.archiveWrites _ i)

theorem passes_of_buildUpdate {env : BuildEnv} {version : String} {build : Build}
    (hbuild : buildUpdate T env version = some build) {staging : StagingEnv} (hworks : staging.Works)
    (hserves : build.Serves staging.call) : verifyReleaseJson T staging (.ok (.ok build.release)) = some () := by
  obtain ⟨hbinaries, hversion, htargets⟩ := buildUpdate_eq_some hbuild
  refine verifyReleaseJson_eq_some.2 ⟨hworks.tempDir, ?_, fun target hmem => ?_⟩
  · rw [htargets, List.length_map, hbinaries.length_eq]
  · rw [htargets] at hmem
    obtain ⟨b, hb, rfl⟩ := List.mem_map.1 hmem
    obtain ⟨target, htarget, hb'⟩ := exists_of_forall₂_right hbinaries hb
    obtain ⟨src, hcall, hread⟩ := hserves b hb
    rw [hversion]
    exact hb'.verifyTarget_eq_some htarget hworks hcall hread

variable (T) in
/-- The whole output of the encoder. -/
def compressed (executable : List UInt8) : List UInt8 := (pieces (T.xzEncoderReads executable)).flatten

/-- What the tool relies on: the text of a signature decodes to it, a signature by a key is accepted for its
public key, the encoder does not fail and writes something, and the decoder undoes it. -/
structure Lawful (T : ToolCrates Version Key) : Prop where
  decode_encode : ∀ key message, T.base64Decode (T.base64Encode (T.sign key message)) = .ok (T.sign key message)
  verify_sign : ∀ key message, T.verifyEd25519 (T.publicKey key) message (T.sign key message) = true
  encodes : ∀ executable, Readable (T.xzEncoderReads executable)
  compressed_ne_nil : ∀ executable, compressed T executable ≠ []
  decodes : ∀ executable, Readable (T.xzReads (compressed T executable)) ∧
    (pieces (T.xzReads (compressed T executable))).flatten = executable

/-- Nothing of the disk or the terminal fails, and no archive is too large for a file. -/
structure BuildEnv.Works (T : ToolCrates Version Key) (env : BuildEnv) : Prop where
  createDirAll : env.createDirAll = some ()
  timestamp : ∃ timestamp, env.timestamp = some timestamp
  readExecutable : ∀ target ∈ TARGETS, ∃ executable, env.readExecutable target = some executable ∧
    (compressed T executable).length < 2 ^ 64
  createArchive : ∀ target, env.createArchive target = some ()
  archiveWrites : ∀ target i, ¬ File.Fails (env.archiveWrites target) i
  readArchive : ∀ target, env.readArchive target = some ()
  test : ∀ target, (env.test target).tempDir = .ok () ∧ (env.test target).openArchive = .ok () ∧
    (env.test target).createExe = .ok ()
  testWrites : ∀ target i, ¬ File.Fails (env.testWrites target) i
  readTest : ∀ target, env.readTest target = some ()
  writeLatest : env.writeLatest = some ()

/-- With writes that do not fail the archive is the whole output: `compress` is `decompress` with the encoder. -/
theorem compress_of_not_fails (hT : Lawful T) {results : Nat → Except String Nat}
    (hwrites : ∀ i, ¬ File.Fails results i) (executable : List UInt8) :
    ∃ file, compress T results executable = some file ∧ file.content = compressed T executable := by
  let encoder : UpdaterCrates Version := { T.toUpdaterCrates with xzReads := T.xzEncoderReads }
  let env : UpdateEnv := ⟨.ok (), fun _ => .ok [], .ok (), .ok (), .ok (), fun _ => .ok ()⟩
  obtain ⟨dest, hrun, hcontent⟩ :=
    @Updater.decompressInto_of_readable _ encoder results env executable hwrites rfl rfl (hT.encodes executable)
  refine ⟨dest, ?_, hcontent⟩
  simp only [decompressInto, env, encoder] at hrun
  rw [compress]
  generalize decompressIntoLoop results (.new .empty) (T.xzEncoderReads executable) = run at hrun ⊢
  rcases run with ⟨e | u, output⟩
  · cases hrun
  · cases hrun
    rfl

theorem signFile_of_key {key version : String} {bytes : List UInt8} {pair : Key}
    (hdecode : T.base64Decode key = .ok bytes) (hpair : T.fromPkcs8 bytes = some pair)
    (hpublic : T.publicKey pair = DISTRIBUTION_PUBLIC_KEY) (file : List UInt8) :
    signFile T file key version =
      some (T.base64Encode (T.sign pair (getBytesForSignature (T.sha512.hash file) version))) := by
  simp only [signFile, hdecode, hpair, if_pos hpublic]

/-- What was signed is accepted. -/
theorem verifySignatureOfFile_of_signed (hT : Lawful T) {pair : Key}
    (hpublic : T.publicKey pair = DISTRIBUTION_PUBLIC_KEY) {file : List UInt8} (hne : file ≠ [])
    (hlen : file.length < 2 ^ 64) {target url version : String} :
    verifySignatureOfFile T file ⟨target, url,
      T.base64Encode (T.sign pair (getBytesForSignature (T.sha512.hash file) version)), .ofNat file.length⟩ version =
      some () := by
  refine verifySignatureOfFile_eq_some.2 ⟨⟨?_, fun h => hne (List.eq_nil_of_length_eq_zero h)⟩, ?_⟩
  · rw [UInt64.toNat_ofNat', Nat.mod_eq_of_lt hlen]
  · rw [verifySignature, hT.decode_encode]
    simp only [← hpublic, hT.verify_sign, if_true]

section
variable {env : BuildEnv} {key version : String} {bytes : List UInt8} {pair : Key}

theorem buildTarget_of_works (hT : Lawful T) (henv : env.Works T) (hdecode : T.base64Decode key = .ok bytes)
    (hpair : T.fromPkcs8 bytes = some pair) (hpublic : T.publicKey pair = DISTRIBUTION_PUBLIC_KEY) {target : String}
    (htarget : target ∈ TARGETS) : ∃ b, buildTarget T env key version target = some b := by
  obtain ⟨executable, hexe, hlen⟩ := henv.readExecutable target htarget
  obtain ⟨file, hcompress, hcontent⟩ := compress_of_not_fails hT (henv.archiveWrites target) executable
  obtain ⟨hdir, hopen, hcreate⟩ := henv.test target
  obtain ⟨hreadable, hplain⟩ := hT.decodes executable
  rw [← hcontent] at hlen hreadable hplain
  have hne : file.content ≠ [] := hcontent ▸ hT.compressed_ne_nil executable
  obtain ⟨dest, hrun, hdest⟩ := Updater.decompressInto_of_readable (henv.testWrites target) hopen hcreate hreadable
  have htest : testArchive T env target executable file.content = some () :=
    testArchive_eq_some.2 ⟨hdir, henv.readTest target, dest, hrun, by rw [hdest, hplain]⟩
  have hverified := fun url => @verifySignatureOfFile_of_signed _ _ T hT pair hpublic file.content hne hlen target url
    version
  simp only [buildTarget, Option.bind_eq_bind, hexe, henv.createArchive, hcompress, henv.readArchive,
    signFile_of_key hdecode hpair hpublic, hverified, htest, Option.bind_some]
  exact ⟨_, rfl⟩

theorem buildTargets_of_works (hT : Lawful T) (henv : env.Works T) (hdecode : T.base64Decode key = .ok bytes)
    (hpair : T.fromPkcs8 bytes = some pair) (hpublic : T.publicKey pair = DISTRIBUTION_PUBLIC_KEY)
    {targets : List String} (htargets : ∀ target ∈ targets, target ∈ TARGETS) :
    ∃ bs, buildTargets T env key version targets = some bs := by
  induction targets with
  | nil => exact ⟨[], rfl⟩
  | cons target targets ih =>
    obtain ⟨htarget, hrest⟩ := List.forall_mem_cons.1 htargets
    obtain ⟨b, hb⟩ := @buildTarget_of_works _ _ T env key version _ _ hT henv hdecode hpair hpublic target htarget
    obtain ⟨bs, hbs⟩ := ih hrest
    exact ⟨b :: bs, by rw [buildTargets, hb, hbs]; rfl⟩

/-- With the private key of the distribution and a disk that takes every write, the build completes for every
executable, and what it made, served in any pieces, passes the check. -/
theorem build_completes (hT : Lawful T) (henv : env.Works T) (hpassword : env.readPassword = some key)
    (hdecode : T.base64Decode key = .ok bytes) (hpair : T.fromPkcs8 bytes = some pair)
    (hpublic : T.publicKey pair = DISTRIBUTION_PUBLIC_KEY) (version : String) :
    ∃ build, buildUpdate T env version = some build ∧ ∀ staging : StagingEnv, staging.Works →
      build.Serves staging.call → verifyReleaseJson T staging (.ok (.ok build.release)) = some () := by
  obtain ⟨timestamp, htimestamp⟩ := henv.timestamp
  obtain ⟨bs, hbs⟩ :=
    @buildTargets_of_works _ _ T env key version _ _ hT henv hdecode hpair hpublic TARGETS fun _ h => h
  have hbuild : buildUpdate T env version = some ⟨⟨version, "", timestamp, bs.map Built.json⟩, bs⟩ := by
    simp only [buildUpdate, Option.bind_eq_bind, henv.createDirAll, hpassword, htimestamp, hbs, henv.writeLatest,
      Option.bind_some]
  exact ⟨_, hbuild, fun staging hworks hserves => passes_of_buildUpdate hbuild hworks hserves⟩

end

/-! ### A small release -/

/-- The three bytes 110, 101 and 119, compressed at level 9. -/
def sampleArchive : List UInt8 :=
  [253, 55, 122, 88, 90, 0, 0, 4, 230, 214, 180, 70, 2, 0, 33, 1, 28, 0, 0, 0, 16, 207, 88, 204, 1, 0, 2, 110,
    101, 119, 0, 0, 87, 246, 237, 95, 168, 171, 97, 193, 0, 1, 27, 3, 11, 47, 185, 16, 31, 182, 243, 125, 1, 0,
    0, 0, 0, 4, 89, 90]

def sampleArchiveHash : List UInt8 :=
  [99, 248, 28, 59, 209, 91, 116, 77, 15, 179, 163, 236, 199, 199, 43, 167, 47, 60, 68, 69, 15, 171, 8, 56, 217,
    110, 132, 161, 168, 191, 137, 227, 171, 152, 242, 86, 108, 102, 21, 229, 190, 98, 254, 87, 74, 140, 210, 115,
    141, 176, 44, 40, 130, 118, 94, 93, 158, 108, 190, 159, 166, 178, 157, 122]

def sampleExecutableHash : List UInt8 :=
  [170, 84, 222, 249, 224, 187, 17, 193, 235, 191, 201, 122, 158, 230, 58, 249, 233, 92, 79, 223, 29, 3, 43, 29,
    220, 192, 242, 22, 97, 247, 72, 101, 29, 43, 43, 143, 185, 78, 154, 224, 65, 120, 5, 84, 219, 41, 129, 93, 170,
    28, 15, 233, 145, 221, 174, 84, 239, 240, 196, 194, 140, 217, 210, 12]

def sampleDigest : Digest UInt8 where
  Context := List UInt8
  new := []
  update c message := c ++ message
  finish c :=
    if c = sampleArchive then sampleArchiveHash
    else if c = [110, 101, 119] then sampleExecutableHash
    else .replicate 64 0
  length := 64
  update_update _ _ _ := List.append_assoc _ _ _
  length_finish _ := by
    split
    · rfl
    · split <;> rfl

/-- One signature is made for the archive as version 0.2.0, another for all else. -/
def sampleSign (message : List UInt8) : List UInt8 :=
  if message = getBytesForSignature sampleArchiveHash "0.2.0" then sampleSignature else .replicate 64 0

def sampleZeroText : String :=
  "AAAAAAAAAAAAAAAAAAAAAAAAAAAAAAAAAAAAAAAAAAAAAAAAAAAAAAAAAAAAAAAAAAAAAAAAAAAAAAAAAAAAAA=="

/-- The crates where they are called for the release. -/
def sampleCrates : ToolCrates Nat Unit where
  sha512 := sampleDigest
  length_sha512 := rfl
  verifyEd25519 key message signature := key = DISTRIBUTION_PUBLIC_KEY ∧ signature = sampleSign message
  parseVersion s := if s = "0.1.0" then some 1 else if s = "0.2.0" then some 2 else none
  base64Decode s :=
    if s = sampleSignatureText then .ok sampleSignature
    else if s = sampleZeroText then .ok (.replicate 64 0)
    else if s = "MFECAQ==" then .ok [48, 81, 2, 1]
    else .error "Invalid symbol"
  xzReads archive :=
    if archive = sampleArchive then [some [110, 101, 119]]
    else match archive with
      | 0 :: content => [some content]
      | _ => [none]
  CURRENT_PLATFORM := "x86_64-apple-darwin"
  base64Encode bytes := if bytes = sampleSignature then sampleSignatureText else sampleZeroText
  fromPkcs8 bytes := if bytes = [48, 81, 2, 1] then some () else none
  publicKey _ := DISTRIBUTION_PUBLIC_KEY
  sign _ := sampleSign
  xzEncoderReads content := if content = [110, 101, 119] then [some sampleArchive] else [some (0 :: content)]

theorem lawful_sampleCrates : Lawful sampleCrates where
  decode_encode key message := by
    change sampleCrates.base64Decode (sampleCrates.base64Encode (sampleSign message)) = .ok (sampleSign message)
    rw [sampleSign]
    split <;> rfl
  verify_sign key message := decide_eq_true ⟨rfl, rfl⟩
  encodes content := by
    change Readable (if content = [110, 101, 119] then [some sampleArchive] else [some (0 :: content)])
    split <;> exact .inr trivial
  compressed_ne_nil content := by
    change (pieces (if content = [110, 101, 119] then [some sampleArchive] else [some (0 :: content)])).flatten ≠ []
    split <;> exact List.cons_ne_nil _ _
  decodes content := by
    have hcompressed : compressed sampleCrates content =
        if content = [110, 101, 119] then sampleArchive else 0 :: content := by
      rw [compressed]
      simp only [sampleCrates]
      split <;> simp [pieces, sampleArchive]
    rw [hcompressed]
    split
    · next h =>
      subst h
      exact ⟨.inr trivial, rfl⟩
    · have hne : 0 :: content ≠ sampleArchive := by simp [sampleArchive]
      have hreads : sampleCrates.xzReads (0 :: content) = [some content] := by
        simp only [sampleCrates, if_neg hne]
      rw [hreads]
      refine ⟨.inr trivial, ?_⟩
      cases content <;> simp [pieces]

def sampleEnv : BuildEnv where
  createDirAll := some ()
  readPassword := some "MFECAQ=="
  timestamp := some 0
  readExecutable _ := some [110, 101, 119]
  createArchive _ := some ()
  archiveWrites _ _ := .ok 8192
  readArchive _ := some ()
  test _ := ⟨.ok (), fun _ => .ok [], .ok (), .ok (), .ok (), fun _ => .ok ()⟩
  testWrites _ _ := .ok 8192
  readTest _ := some ()
  writeLatest := some ()

theorem not_fails_of_ok {n : Nat} (hn : n ≠ 0) (i : Nat) : ¬ File.Fails (fun _ => .ok n) i :=
  fun h => hn (h n rfl)

theorem works_sampleEnv : sampleEnv.Works sampleCrates where
  createDirAll := rfl
  timestamp := ⟨0, rfl⟩
  readExecutable _ _ := ⟨[110, 101, 119], rfl, by decide +kernel⟩
  createArchive _ := rfl
  archiveWrites _ := not_fails_of_ok (by decide)
  readArchive _ := rfl
  test _ := ⟨rfl, rfl, rfl⟩
  testWrites _ := not_fails_of_ok (by decide)
  readTest _ := rfl
  writeLatest := rfl

def sampleBuilt (target : String) : Built where
  json := ⟨target, URL_PREFIX ++ compressedExeName target "0.2.0", sampleSignatureText, 60⟩
  name := compressedExeName target "0.2.0"
  archive := sampleArchive

def sampleBuild : Build := ⟨⟨"0.2.0", "", 0, TARGETS.map (Built.json ∘ sampleBuilt)⟩, TARGETS.map sampleBuilt⟩

theorem buildUpdate_sample : buildUpdate sampleCrates sampleEnv "0.2.0" = some sampleBuild := rfl

/-- Every address serves the archive in two pieces. -/
def sampleCall (_ : String) : Except String (List (Except String (List UInt8))) :=
  .ok [.ok (sampleArchive.take 20), .ok (sampleArchive.drop 20), .ok []]

theorem serves_sampleBuild : sampleBuild.Serves sampleCall := by
  intro b hb
  obtain ⟨target, -, rfl⟩ := List.mem_map.1 hb
  exact ⟨_, rfl, rfl⟩

def sampleClient : UpdateEnv := ⟨.ok (), sampleCall, .ok (), .ok (), .ok (), fun _ => .ok ()⟩

theorem works_sampleClient : sampleClient.Works := ⟨rfl, rfl, rfl, rfl, fun _ => rfl⟩

def sampleStaging : StagingEnv := ⟨sampleCall, some (), fun _ => some (), fun _ _ => .ok 60, fun _ => some ()⟩

theorem build_completes_sample :
    ∃ build, buildUpdate sampleCrates sampleEnv "0.2.0" = some build ∧ ∀ staging : StagingEnv, staging.Works →
      build.Serves staging.call → verifyReleaseJson sampleCrates staging (.ok (.ok build.release)) = some () :=
  build_completes lawful_sampleCrates works_sampleEnv rfl rfl rfl rfl "0.2.0"

theorem release_installs_sample :
    ∃ updater executable program',
      Updater.new sampleCrates.toUpdaterCrates "0.1.0" (.ok (.ok sampleBuild.release)) = .ok (some updater) ∧
      sampleEnv.readExecutable "x86_64-apple-darwin" = some executable ∧
      updater.updateInto sampleCrates.toUpdaterCrates (fun _ => .ok 8192) sampleClient [111, 108, 100] =
        (.ok (), program') ∧
      sampleDigest.hash program' = sampleDigest.hash executable :=
  @release_installs _ _ sampleCrates _ sampleEnv "0.2.0" sampleBuild buildUpdate_sample
    (fun _ => not_fails_of_ok (by decide)) (by decide) 2 1 "0.1.0" rfl rfl (by decide) sampleClient works_sampleClient
    serves_sampleBuild _ (not_fails_of_ok (by decide)) [111, 108, 100]

theorem staging_passed_sample :
    (∃ updater archive,
      Updater.new sampleCrates.toUpdaterCrates "0.1.0" (.ok (.ok sampleBuild.release)) = .ok (some updater) ∧
      updater.verifiedArchive sampleCrates.toUpdaterCrates sampleClient = .ok archive ∧
      archive.length = updater.target.size.toNat ∧ archive ≠ []) ∧
    ∀ platform ∈ TARGETS, ∃ target ∈ sampleBuild.release.targets, target.target = platform := by
  have h := @staging_passed _ _ sampleCrates _ sampleStaging sampleBuild.release rfl
  refine ⟨@h.1 2 1 "0.1.0" sampleClient rfl rfl (by decide) ?_ works_sampleClient rfl, h.2.2 (by decide)⟩
  exact ⟨(sampleBuilt "x86_64-apple-darwin").json, by simp [sampleBuild, TARGETS], rfl⟩

end UpdateTool
end CraftIP
