import CraftIP.Updater.Decompress

/-!
# The update tool (`util/update-tool/src/main.rs`)

`build_update` compresses, signs and tests the executable of every target; `verify_release_json` downloads what
the document of a release names and checks it. Both stop at the first thing that is wrong. A release that was
built is installed, whatever the disk of the build did with the archives (`release_installs`); one that was
checked is good for the platforms it names, which are all of them if no name comes twice (`staging_passed`).
-/

namespace CraftIP

/-- The crates of the tool. A `Key` is an `Ed25519KeyPair`; `xzEncoderReads` has what the calls of `read` of an
`XzEncoder` give. -/
structure ToolCrates (Version Key : Type) extends UpdaterCrates Version where
  base64Encode : List UInt8 → String
  fromPkcs8 : List UInt8 → Option Key
  publicKey : Key → List UInt8
  sign : Key → (message : List UInt8) → List UInt8
  xzEncoderReads : List UInt8 → List (Option (List UInt8))

namespace UpdateTool
open Updater (decompressInto decompressIntoLoop verifySignature pieces Readable)

def TARGETS : List String :=
  ["x86_64-pc-windows-msvc", "i686-pc-windows-msvc", "aarch64-apple-darwin", "x86_64-apple-darwin"]

def URL_PREFIX : String := "https://update.craftip.net/update/v1/binaries/"

/-- What the disk, the terminal and the clock come to; `none` is unwrapped. For each target, `archiveWrites` are
the writes to its archive, and `test` and `testWrites` belong to the decompression after it. -/
structure BuildEnv where
  createDirAll : Option Unit
  readPassword : Option String
  timestamp : Option UInt64
  readExecutable : (target : String) → Option (List UInt8)
  createArchive : (target : String) → Option Unit
  archiveWrites : (target : String) → Nat → Except String Nat
  readArchive : (target : String) → Option Unit
  test : (target : String) → UpdateEnv
  testWrites : (target : String) → Nat → Except String Nat
  readTest : (target : String) → Option Unit
  writeLatest : Option Unit

/-- An archive in the folder of the binaries, and what the document says of it. -/
structure Built where
  json : Target
  name : String
  archive : List UInt8

structure Build where
  release : LatestRelease
  binaries : List Built

variable {Version Key : Type} (T : ToolCrates Version Key)

/-- The loop is that of `decompress`. A read that fails panics, and the error of a write is unwrapped by the
caller; the writer is dropped at the end. -/
def compress (results : Nat → Except String Nat) (executable : List UInt8) : Option (File UInt8) :=
  match decompressIntoLoop results (.new .empty) (T.xzEncoderReads executable) with
  | (.error _, _) => none
  | (.ok (), output) => some (output.drop results)

def signFile (file : List UInt8) (key version : String) : Option String :=
  match T.base64Decode key with
  | .error _ => none
  | .ok bytes =>
    match T.fromPkcs8 bytes with
    | none => none
    | some key =>
      if T.publicKey key = DISTRIBUTION_PUBLIC_KEY then
        some (T.base64Encode (T.sign key (getBytesForSignature (T.sha512.hash file) version)))
      else none

def verifySignatureOfFile (archive : List UInt8) (target : Target) (version : String) : Option Unit :=
  if archive.length = target.size.toNat ∧ archive.length ≠ 0 then
    match verifySignature T.toUpdaterCrates (T.sha512.hash archive) version target.signature with
    | .error _ => none
    | .ok () => some ()
  else none

def compressedExeName (target version : String) : String := target ++ "-" ++ version ++ ".xz"

/-- The archive is decompressed once more, and the result must have the hash of the executable. -/
def testArchive (env : BuildEnv) (target : String) (executable archive : List UInt8) : Option Unit :=
  match (env.test target).tempDir with
  | .error _ => none
  | .ok () =>
    match decompressInto T.toUpdaterCrates (env.testWrites target) (env.test target) archive with
    | (.error _, _) => none
    | (.ok (), file) =>
      (env.readTest target).bind fun _ =>
        if T.sha512.hash file.content = T.sha512.hash executable then some () else none

/-- The body of the loop of `build_update`. -/
def buildTarget (env : BuildEnv) (key version target : String) : Option Built := do
  let executable ← env.readExecutable target
  env.createArchive target
  let file ← compress T (env.archiveWrites target) executable
  env.readArchive target
  let signature ← signFile T file.content key version
  let name := compressedExeName target version
  let json : Target := ⟨target, URL_PREFIX ++ name, signature, .ofNat file.content.length⟩
  verifySignatureOfFile T file.content json version
  testArchive T env target executable file.content
  some ⟨json, name, file.content⟩

def buildTargets (env : BuildEnv) (key version : String) : List String → Option (List Built)
  | [] => some []
  | target :: targets => do
    let built ← buildTarget T env key version target
    let rest ← buildTargets env key version targets
    some (built :: rest)

def buildUpdate (env : BuildEnv) (version : String) : Option Build := do
  env.createDirAll
  let key ← env.readPassword
  let timestamp ← env.timestamp
  let binaries ← buildTargets T env key version TARGETS
  env.writeLatest
  some ⟨⟨version, "", timestamp, binaries.map Built.json⟩, binaries⟩

/-- `read_to_end` of a body, in the pieces of `UpdateEnv.call`. -/
def readToEnd : List (Except String (List UInt8)) → Option (List UInt8)
  | [] => some []
  | .error _ :: _ => none
  | .ok buf :: src => if buf.length = 0 then some [] else (readToEnd src).map (buf ++ ·)

/-- What the requests and the file system come to when a release is checked. -/
structure StagingEnv where
  call : (url : String) → Except String (List (Except String (List UInt8)))
  tempDir : Option Unit
  createArchive : (target : String) → Option Unit
  archiveWrites : (target : String) → Nat → Except String Nat
  readArchive : (target : String) → Option Unit

/-- The body of the loop of `verify_release_json`. -/
def verifyTarget (env : StagingEnv) (version : String) (target : Target) : Option Unit :=
  if target.target ∈ TARGETS then
    match env.call target.url with
    | .error _ => none
    | .ok src => do
      let resp ← readToEnd src
      env.createArchive target.target
      match File.empty.writeAll (env.archiveWrites target.target) resp with
      | (.error _, _) => none
      | (.ok (), _, archive) =>
        env.readArchive target.target
        verifySignatureOfFile T archive.content target version
  else none

def verifyTargets (env : StagingEnv) (version : String) : List Target → Option Unit
  | [] => some ()
  | target :: targets => do
    verifyTarget T env version target
    verifyTargets env version targets

def verifyReleaseJson (env : StagingEnv) (response : Except String (Except String LatestRelease)) : Option Unit :=
  match response with
  | .ok (.ok release) => do
    env.tempDir
    if release.targets.length = TARGETS.length then verifyTargets T env release.version release.targets else none
  | _ => none

/-! ### One target -/

section
variable {T}

theorem verifySignatureOfFile_eq_some {archive : List UInt8} {target : Target} {version : String} :
    verifySignatureOfFile T archive target version = some () ↔
      (archive.length = target.size.toNat ∧ archive.length ≠ 0) ∧
        verifySignature T.toUpdaterCrates (T.sha512.hash archive) version target.signature = .ok () := by
  rw [verifySignatureOfFile]
  split
  · next hsize =>
    split
    · next he => exact iff_of_false (fun h => by cases h) fun h => by cases he.symm.trans h.2
    · next hok => exact iff_of_true rfl ⟨hsize, hok⟩
  · next hsize => exact iff_of_false (fun h => by cases h) fun h => hsize h.1

theorem testArchive_eq_some {env : BuildEnv} {target : String} {executable archive : List UInt8} :
    testArchive T env target executable archive = some () ↔
      (env.test target).tempDir = .ok () ∧ env.readTest target = some () ∧
        ∃ file, decompressInto T.toUpdaterCrates (env.testWrites target) (env.test target) archive = (.ok (), file) ∧
          T.sha512.hash file.content = T.sha512.hash executable := by
  rw [testArchive]
  split
  · next e he => exact iff_of_false (fun h => by cases h) fun h => by cases he.symm.trans h.1
  · next hdir =>
    split
    · next e f hrun =>
      exact iff_of_false (fun h => by cases h) fun h => by
        obtain ⟨-, -, f', hrun', -⟩ := h
        cases hrun.symm.trans hrun'
    · next file hrun =>
      rw [Option.bind_eq_some_iff]
      constructor
      · rintro ⟨u, hread, h⟩
        split at h
        · next hhash => exact ⟨hdir, hread, file, hrun, hhash⟩
        · cases h
      · rintro ⟨-, hread, file', hrun', hhash⟩
        cases hrun.symm.trans hrun'
        exact ⟨(), hread, if_pos hhash⟩

/-- A built target: what its document says holds of the archive, and the archive was tested. -/
structure Tested (T : ToolCrates Version Key) (env : BuildEnv) (version target : String) (b : Built) : Prop where
  target_eq : b.json.target = target
  url_eq : b.json.url = URL_PREFIX ++ b.name
  name_eq : b.name = compressedExeName target version
  verified : verifySignatureOfFile T b.archive b.json version = some ()
  tested : ∃ executable, env.readExecutable target = some executable ∧
    testArchive T env target executable b.archive = some ()

theorem Tested.of_buildTarget {env : BuildEnv} {key version target : String} {b : Built}
    (h : buildTarget T env key version target = some b) : Tested T env version target b := by
  simp only [buildTarget, Option.bind_eq_bind, Option.bind_eq_some_iff] at h
  obtain ⟨executable, hexe, _, _, file, _, _, _, signature, _, _, hverified, _, htested, h⟩ := h
  cases h
  exact ⟨rfl, rfl, rfl, hverified, executable, hexe, htested⟩

/-- The targets are those of the list, in its order. -/
theorem Tested.of_buildTargets {env : BuildEnv} {key version : String} {targets : List String} {bs : List Built}
    (h : buildTargets T env key version targets = some bs) : List.Forall₂ (Tested T env version) targets bs := by
  induction targets generalizing bs with
  | nil => cases h; exact .nil
  | cons target targets ih =>
    simp only [buildTargets, Option.bind_eq_bind, Option.bind_eq_some_iff] at h
    obtain ⟨b, hb, rest, hrest, h⟩ := h
    cases h
    exact .cons (.of_buildTarget hb) (ih hrest)

theorem buildUpdate_eq_some {env : BuildEnv} {version : String} {build : Build}
    (h : buildUpdate T env version = some build) :
    List.Forall₂ (Tested T env version) TARGETS build.binaries ∧ build.release.version = version ∧
      build.release.targets = build.binaries.map Built.json := by
  simp only [buildUpdate, Option.bind_eq_bind, Option.bind_eq_some_iff] at h
  obtain ⟨_, _, key, _, timestamp, _, binaries, hbinaries, _, _, h⟩ := h
  cases h
  exact ⟨Tested.of_buildTargets hbinaries, rfl, rfl⟩

/-! ### What is downloaded -/

theorem download_of_readToEnd {D : Digest UInt8} {src : List (Except String (List UInt8))} {content : List UInt8}
    (h : readToEnd src = some content) (hash : D.Context) (out : List UInt8) :
    Updater.download D hash out src = .ok (D.update hash content, out ++ content) := by
  induction src generalizing content hash out with
  | nil =>
    cases h
    rw [Updater.download, List.append_nil]
  | cons piece src ih =>
    cases piece with
    | error e => cases h
    | ok buf =>
      rw [readToEnd] at h
      rw [Updater.download]
      by_cases hempty : buf.length = 0
      · rw [if_pos hempty] at h ⊢
        cases h
        rw [List.eq_nil_of_length_eq_zero hempty]
      · rw [if_neg hempty] at h ⊢
        obtain ⟨rest, hrest, rfl⟩ := Option.map_eq_some_iff.1 h
        rw [ih hrest, D.update_update, List.append_assoc]

/-- The archive is downloaded and its signature is good. -/
theorem verifiedArchive_of {updater : Updater} {client : UpdateEnv} {src : List (Except String (List UInt8))}
    {archive : List UInt8} (hdir : client.tempDir = .ok ()) (hcreate : client.createArchive = .ok ())
    (hcall : client.call updater.target.url = .ok src) (hread : readToEnd src = some archive)
    (hverified : verifySignatureOfFile T archive updater.target updater.version = some ()) :
    updater.verifiedArchive T.toUpdaterCrates client = .ok archive := by
  have hsignature := (verifySignatureOfFile_eq_some.1 hverified).2
  rw [Digest.hash] at hsignature
  simp only [Updater.verifiedArchive, hdir, hcall, hcreate, download_of_readToEnd hread, List.nil_append, hsignature]

/-- A newer version with a target for the platform. -/
theorem new_of_newer [LinearOrder Version] {release : LatestRelease} {currentVersion : String} {v current : Version}
    (hv : T.parseVersion release.version = some v) (hcurrent : T.parseVersion currentVersion = some current)
    (hnewer : current < v) (hplatform : ∃ target ∈ release.targets, target.target = T.CURRENT_PLATFORM) :
    ∃ target ∈ release.targets, target.target = T.CURRENT_PLATFORM ∧
      Updater.new T.toUpdaterCrates currentVersion (.ok (.ok release)) =
        .ok (some ⟨target, release.version, release.changelog⟩) := by
  cases hfind : release.targets.find? (·.target = T.CURRENT_PLATFORM) with
  | none =>
    obtain ⟨target, hmem, htarget⟩ := hplatform
    exact absurd (decide_eq_true htarget) (List.find?_eq_none.1 hfind target hmem)
  | some target =>
    have htarget := List.find?_some hfind
    refine ⟨target, List.mem_of_find?_eq_some hfind, of_decide_eq_true htarget, ?_⟩
    simp only [Updater.new, hv, hcurrent, if_neg (not_le.2 hnewer), hfind]

end

end UpdateTool
end CraftIP
