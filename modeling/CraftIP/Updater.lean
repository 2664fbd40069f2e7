import CraftIP.Lib.Digest
import CraftIP.Lib.ByteBuf
import CraftIP.Lib.Unicode
import Mathlib.Order.Lattice

/-!
# The updater (`updater/src/updater.rs`, `updater/src/updater_proto.rs`)

The document of the latest release names a version and, for each platform, an archive and a signature. The
archive is downloaded and hashed piece by piece, the signature of hash and version is checked, and the
decompressed archive replaces the executable. Whatever document and body are served, only what was signed for
that very version, and that is newer, comes so far (`Updater.update_authentic`).
-/

namespace CraftIP
open Unicode (utf8)

structure Target where
  target : String
  url : String
  signature : String
  size : UInt64

structure LatestRelease where
  version : String
  changelog : String
  timestamp : UInt64
  targets : List Target

/-- The texts are the system's or the crates'. -/
inductive UpdaterError where
  | requestError (e : String)
  | parsingError (e : String)
  | couldNotParseVersion
  | targetNotFound
  | ioError (e : String)
  | base64DecodeError (e : String)
  | signatureMatchFailed
  | decompressionFailed
  | replaceFailed (e : String)
  | restartFailed (e : String)
deriving DecidableEq, Repr

def SIGNATURE_SEPARATOR_NONCE : String := "CraftIPVersion"

def DISTRIBUTION_PUBLIC_KEY : List UInt8 :=
  [0x56, 0x6c, 0xea, 0xad, 0xff, 0x19, 0xcc, 0xd6, 0xe3, 0x95, 0xf6, 0xd8, 0xb1, 0x45, 0x4e, 0x8a,
    0x54, 0x7e, 0xd4, 0x92, 0xfb, 0x0d, 0x1b, 0xc2, 0xfd, 0x8e, 0x28, 0x78, 0x82, 0x1e, 0xc5, 0x77]

/-- The crates `ring`, `semver`, `base64` and `liblzma`, as far as they are called, and the platform. Of an
`XzDecoder` on an archive `xzReads` has what the calls of `read` give, up to its end or an error. -/
structure UpdaterCrates (Version : Type) where
  sha512 : Digest UInt8
  length_sha512 : sha512.length = 64
  verifyEd25519 : (key message signature : List UInt8) → Bool
  parseVersion : String → Option Version
  base64Decode : String → Except String (List UInt8)
  xzReads : List UInt8 → List (Option (List UInt8))
  CURRENT_PLATFORM : String

/-- What the requests and the file system come to. The body of a download comes in pieces, as `fill_buf` gives
them; the piece after the last is empty. -/
structure UpdateEnv where
  tempDir : Except String Unit
  call : (url : String) → Except String (List (Except String (List UInt8)))
  createArchive : Except String Unit
  openArchive : Except String Unit
  createExe : Except String Unit
  selfReplace : (newExe : List UInt8) → Except String Unit

def getBytesForSignature (hash : List UInt8) (version : String) : List UInt8 :=
  hash ++ utf8 (SIGNATURE_SEPARATOR_NONCE ++ version)

structure Updater where
  target : Target
  version : String
  changelog : String

namespace Updater
variable {Version : Type} (U : UpdaterCrates Version)

/-- `new`, with the response to the request of the document. -/
def new [LinearOrder Version] (currentVersion : String) (response : Except String (Except String LatestRelease)) :
    Outcome UpdaterError (Option Updater) :=
  match response with
  | .error e => .err (.requestError e)
  | .ok (.error e) => .err (.parsingError e)
  | .ok (.ok release) =>
    match U.parseVersion release.version with
    | none => .err .couldNotParseVersion
    | some version =>
      match U.parseVersion currentVersion with
      | none => .panic
      | some current =>
        if version ≤ current then .ok none
        else
          match release.targets.find? (·.target = U.CURRENT_PLATFORM) with
          | none => .err .targetNotFound
          | some target => .ok (some ⟨target, release.version, release.changelog⟩)

/-- The loop of the download: every piece is hashed and written, up to an empty one. -/
def download (D : Digest UInt8) (hash : D.Context) (out : List UInt8) :
    List (Except String (List UInt8)) → Except UpdaterError (D.Context × List UInt8)
  | [] => .ok (D.update hash [], out)
  | .error e :: _ => .error (.ioError e)
  | .ok buf :: src =>
    if buf.length = 0 then .ok (D.update hash buf, out ++ buf)
    else download D (D.update hash buf) (out ++ buf) src

def verifySignature (hash : List UInt8) (version signature : String) : Except UpdaterError Unit :=
  match U.base64Decode signature with
  | .error e => .error (.base64DecodeError e)
  | .ok remoteSignature =>
    if U.verifyEd25519 DISTRIBUTION_PUBLIC_KEY (getBytesForSignature hash version) remoteSignature then .ok ()
    else .error .signatureMatchFailed

/-- The loop of `decompress`. -/
def decompressLoop (output : List UInt8) : List (Option (List UInt8)) → Except UpdaterError (List UInt8)
  | [] => .ok output
  | none :: _ => .error .decompressionFailed
  | some buf :: reads => decompressLoop (output ++ buf) reads

def decompress (env : UpdateEnv) (archive : List UInt8) : Except UpdaterError (List UInt8) :=
  match env.openArchive with
  | .error e => .error (.ioError e)
  | .ok () =>
    match env.createExe with
    | .error e => .error (.ioError e)
    | .ok () => decompressLoop [] (U.xzReads archive)

/-- `update` up to `self_replace`: the new executable. -/
def newExe (env : UpdateEnv) (updater : Updater) : Except UpdaterError (List UInt8) :=
  match env.tempDir with
  | .error e => .error (.ioError e)
  | .ok () =>
    match env.call updater.target.url with
    | .error e => .error (.requestError e)
    | .ok src =>
      match env.createArchive with
      | .error e => .error (.ioError e)
      | .ok () =>
        match download U.sha512 U.sha512.new [] src with
        | .error e => .error e
        | .ok (hash, archive) =>
          match verifySignature U (U.sha512.finish hash) updater.version updater.target.signature with
          | .error e => .error e
          | .ok () => decompress U env archive

/-- `update`: what it returns, and the executable after it. -/
def update (env : UpdateEnv) (updater : Updater) (executable : List UInt8) :
    Except UpdaterError Unit × List UInt8 :=
  match updater.newExe U env with
  | .error e => (.error e, executable)
  | .ok newExe =>
    match env.selfReplace newExe with
    | .error e => (.error (.replaceFailed e), executable)
    | .ok () => (.ok (), newExe)

/-! ### What is installed -/

/-- The body of a response: its pieces up to the first empty one. -/
def body : List (Except String (List UInt8)) → List UInt8
  | .ok buf :: src => if buf.length = 0 then [] else buf ++ body src
  | _ => []

/-- What all the reads of a decoder give together, if none fails. -/
def decompressed : List (Option (List UInt8)) → Option (List UInt8)
  | [] => some []
  | none :: _ => none
  | some buf :: reads => (decompressed reads).map (buf ++ ·)

/-- For every way the body is cut, what is hashed and what is written is the body. -/
theorem download_eq_ok {D : Digest UInt8} {hash hash' : D.Context} {out archive : List UInt8}
    {src : List (Except String (List UInt8))} (h : download D hash out src = .ok (hash', archive)) :
    hash' = D.update hash (body src) ∧ archive = out ++ body src := by
  induction src generalizing hash out with
  | nil => cases h; exact ⟨rfl, (List.append_nil _).symm⟩
  | cons piece src ih =>
    cases piece with
    | error e => cases h
    | ok buf =>
      simp only [download, body] at h ⊢
      split at h
      · next hempty =>
        cases h
        rw [if_pos hempty, List.eq_nil_of_length_eq_zero hempty]
        exact ⟨rfl, rfl⟩
      · next hne =>
        obtain ⟨rfl, rfl⟩ := ih h
        rw [if_neg hne, D.update_update, List.append_assoc]
        exact ⟨rfl, rfl⟩

theorem decompressLoop_eq_ok {output file : List UInt8} {reads : List (Option (List UInt8))}
    (h : decompressLoop output reads = .ok file) :
    ∃ plain, decompressed reads = some plain ∧ file = output ++ plain := by
  induction reads generalizing output with
  | nil => cases h; exact ⟨[], rfl, (List.append_nil _).symm⟩
  | cons read reads ih =>
    cases read with
    | none => cases h
    | some buf =>
      obtain ⟨plain, hplain, rfl⟩ := ih h
      exact ⟨buf ++ plain, by rw [decompressed, hplain]; rfl, List.append_assoc _ _ _⟩

theorem decompressLoop_of_decompressed {output plain : List UInt8} {reads : List (Option (List UInt8))}
    (h : decompressed reads = some plain) : decompressLoop output reads = .ok (output ++ plain) := by
  induction reads generalizing output plain with
  | nil => cases h; exact congrArg Except.ok (List.append_nil _).symm
  | cons read reads ih =>
    cases read with
    | none => cases h
    | some buf =>
      obtain ⟨plain, hplain, rfl⟩ := Option.map_eq_some_iff.1 h
      rw [decompressLoop, ih hplain, List.append_assoc]

variable {U}

theorem decompress_eq_ok {env : UpdateEnv} {archive file : List UInt8} (h : decompress U env archive = .ok file) :
    decompressed (U.xzReads archive) = some file := by
  rw [decompress] at h
  split at h
  · cases h
  · split at h
    · cases h
    · obtain ⟨plain, hplain, rfl⟩ := decompressLoop_eq_ok h
      exact hplain

theorem verifySignature_eq_ok {hash : List UInt8} {version signature : String}
    (h : verifySignature U hash version signature = .ok ()) :
    ∃ remoteSignature, U.base64Decode signature = .ok remoteSignature ∧
      U.verifyEd25519 DISTRIBUTION_PUBLIC_KEY (getBytesForSignature hash version) remoteSignature = true := by
  rw [verifySignature] at h
  split at h
  · cases h
  · next remoteSignature hdecode =>
    split at h
    · next hverify => exact ⟨remoteSignature, hdecode, hverify⟩
    · cases h

/-- What is downloaded is what is verified and what is decompressed. -/
theorem newExe_eq_ok {env : UpdateEnv} {updater : Updater} {file : List UInt8}
    (h : updater.newExe U env = .ok file) :
    ∃ src, env.call updater.target.url = .ok src ∧
      verifySignature U (U.sha512.hash (body src)) updater.version updater.target.signature = .ok () ∧
      decompressed (U.xzReads (body src)) = some file := by
  simp only [newExe] at h
  split at h
  · cases h
  split at h
  · cases h
  next src hsrc =>
  split at h
  · cases h
  split at h
  · cases h
  next hash archive hdownload =>
  obtain ⟨rfl, rfl⟩ := download_eq_ok hdownload
  split at h
  · cases h
  next hverify => exact ⟨src, hsrc, hverify, decompress_eq_ok h⟩

theorem new_eq_some [LinearOrder Version] {currentVersion : String} {updater : Updater}
    {response : Except String (Except String LatestRelease)}
    (h : new U currentVersion response = .ok (some updater)) :
    ∃ release version current, response = .ok (.ok release) ∧ U.parseVersion release.version = some version ∧
      U.parseVersion currentVersion = some current ∧ current < version ∧ updater.target ∈ release.targets ∧
      updater.version = release.version := by
  rw [new.eq_def] at h
  split at h
  · cases h
  · cases h
  next release =>
  split at h
  · cases h
  next version hversion =>
  split at h
  · cases h
  next current hcurrent =>
  split at h
  · cases h
  next hnewer =>
  split at h
  · cases h
  next target htarget =>
  cases h
  exact ⟨release, version, current, rfl, hversion, hcurrent, not_le.1 hnewer,
    List.mem_of_find?_eq_some htarget, rfl⟩

/-- A signature made for one hash and version fits no other. -/
theorem getBytesForSignature_inj {a b : List UInt8} {v w : String}
    (h : getBytesForSignature (U.sha512.hash a) v = getBytesForSignature (U.sha512.hash b) w) :
    U.sha512.hash a = U.sha512.hash b ∧ v = w := by
  obtain ⟨hhash, hversion⟩ := U.sha512.hash_append_inj h
  rw [Unicode.utf8_append, Unicode.utf8_append] at hversion
  have hutf8 := congrArg Unicode.fromUtf8 (List.append_cancel_left hversion)
  rw [Unicode.fromUtf8_utf8, Unicode.fromUtf8_utf8] at hutf8
  exact ⟨hhash, Option.some.inj hutf8⟩

/-- The file is what a downloaded body decompresses to; the body was signed together with the version of the
document, which is newer than the current one. -/
structure Authentic [LinearOrder Version] (U : UpdaterCrates Version) (currentVersion : String)
    (release : LatestRelease) (env : UpdateEnv) (file : List UInt8) : Prop where
  newer : ∃ version current, U.parseVersion release.version = some version ∧
    U.parseVersion currentVersion = some current ∧ current < version
  signed : ∃ target ∈ release.targets, ∃ src remoteSignature, env.call target.url = .ok src ∧
    decompressed (U.xzReads (body src)) = some file ∧ U.base64Decode target.signature = .ok remoteSignature ∧
    U.verifyEd25519 DISTRIBUTION_PUBLIC_KEY
      (U.sha512.hash (body src) ++ utf8 (SIGNATURE_SEPARATOR_NONCE ++ release.version)) remoteSignature = true

theorem authentic_of_newExe [LinearOrder Version] {currentVersion : String} {updater : Updater}
    {response : Except String (Except String LatestRelease)} {env : UpdateEnv} {file : List UInt8}
    (hnew : new U currentVersion response = .ok (some updater)) (h : updater.newExe U env = .ok file) :
    ∃ release, response = .ok (.ok release) ∧ Authentic U currentVersion release env file := by
  obtain ⟨release, version, current, hresponse, hversion, hcurrent, hnewer, htarget, hupdater⟩ := new_eq_some hnew
  obtain ⟨src, hsrc, hverify, hplain⟩ := newExe_eq_ok h
  obtain ⟨remoteSignature, hdecode, hsigned⟩ := verifySignature_eq_ok hverify
  rw [hupdater] at hsigned
  exact ⟨release, hresponse, ⟨version, current, hversion, hcurrent, hnewer⟩,
    ⟨updater.target, htarget, src, remoteSignature, hsrc, hplain, hdecode, hsigned⟩⟩

/-- With a verification that accepts only for what a signature was made: what reaches `self_replace` is
authentic, an error leaves the executable as it was, and a signature for one body and version is accepted for
no other hash and no other version. -/
theorem update_authentic [LinearOrder Version] {signedMessage : List UInt8 → Option (List UInt8)}
    (hsigned : ∀ message signature,
      U.verifyEd25519 DISTRIBUTION_PUBLIC_KEY message signature = true → signedMessage signature = some message)
    {currentVersion : String} {response : Except String (Except String LatestRelease)} {updater : Updater}
    (hnew : new U currentVersion response = .ok (some updater)) (env : UpdateEnv) (executable : List UInt8) :
    (∀ file, updater.newExe U env = .ok file →
      ∃ release, response = .ok (.ok release) ∧ Authentic U currentVersion release env file) ∧
    (∀ e, (updater.update U env executable).1 = .error e → (updater.update U env executable).2 = executable) ∧
    ((updater.update U env executable).1 = .ok () →
      updater.newExe U env = .ok (updater.update U env executable).2) ∧
    ∀ body₁ version₁ body₂ version₂ signature remoteSignature, U.base64Decode signature = .ok remoteSignature →
      signedMessage remoteSignature = some (getBytesForSignature (U.sha512.hash body₁) version₁) →
      verifySignature U (U.sha512.hash body₂) version₂ signature = .ok () →
      U.sha512.hash body₁ = U.sha512.hash body₂ ∧ version₁ = version₂ := by
  refine ⟨fun file => authentic_of_newExe hnew, fun e he => ?_, fun hok => ?_, ?_⟩
  · rw [update] at he ⊢
    split at he
    · rfl
    · split at he
      · rfl
      · cases he
  · rw [update] at hok ⊢
    split at hok
    · cases hok
    · next hexe =>
      split at hok
      · cases hok
      · exact hexe
  · intro body₁ version₁ body₂ version₂ signature remoteSignature hdecode hmade hverify
    obtain ⟨remoteSignature', hdecode', haccepts⟩ := verifySignature_eq_ok hverify
    cases hdecode.symm.trans hdecode'
    exact getBytesForSignature_inj (Option.some.inj (hmade.symm.trans (hsigned _ _ haccepts)))

/-! ### A release -/

/-- The three bytes 110, 101 and 119, compressed. -/
def sampleArchive : List UInt8 :=
  [253, 55, 122, 88, 90, 0, 0, 4, 230, 214, 180, 70, 2, 0, 33, 1, 22, 0, 0, 0, 116, 47, 229, 163, 1, 0, 2, 110,
    101, 119, 0, 0, 87, 246, 237, 95, 168, 171, 97, 193, 0, 1, 27, 3, 11, 47, 185, 16, 31, 182, 243, 125, 1, 0,
    0, 0, 0, 4, 89, 90]

def sampleHash : List UInt8 :=
  [70, 73, 185, 167, 161, 41, 129, 197, 18, 89, 30, 52, 103, 232, 18, 12, 188, 254, 204, 8, 219, 146, 76, 87, 183,
    19, 40, 247, 246, 84, 142, 90, 9, 136, 31, 237, 103, 39, 132, 33, 141, 79, 194, 110, 242, 9, 226, 84, 212, 35,
    7, 47, 43, 232, 255, 144, 76, 103, 225, 113, 253, 51, 53, 173]

def sampleDigest : Digest UInt8 where
  Context := List UInt8
  new := []
  update c message := c ++ message
  finish c := if c = sampleArchive then sampleHash else .replicate 64 0
  length := 64
  update_update _ _ _ := List.append_assoc _ _ _
  length_finish _ := by split <;> rfl

/-- A stand-in for the 64 bytes of the release's signature, and its text. -/
def sampleSignature : List UInt8 := .replicate 64 1

def sampleSignatureText : String :=
  "AQEBAQEBAQEBAQEBAQEBAQEBAQEBAQEBAQEBAQEBAQEBAQEBAQEBAQEBAQEBAQEBAQEBAQEBAQEBAQEBAQEBAQ=="

/-- What the signature was made for. -/
def sampleSigned (signature : List UInt8) : Option (List UInt8) :=
  if signature = sampleSignature then some (getBytesForSignature sampleHash "0.2.0") else none

/-- The crates where they are called for the release. -/
def sampleCrates : UpdaterCrates Nat where
  sha512 := sampleDigest
  length_sha512 := rfl
  verifyEd25519 _ message signature := sampleSigned signature = some message
  parseVersion s := if s = "0.1.0" then some 1 else if s = "0.2.0" then some 2 else none
  base64Decode s := if s = sampleSignatureText then .ok sampleSignature else .error "Invalid symbol"
  xzReads archive := if archive = sampleArchive then [some [110, 101, 119]] else [none]
  CURRENT_PLATFORM := "x86_64-unknown-linux-gnu"

def sampleRelease : LatestRelease :=
  ⟨"0.2.0", "", 0, [⟨"x86_64-unknown-linux-gnu", "https://update.craftip.net/a.xz", sampleSignatureText, 60⟩]⟩

/-- The archive comes in three pieces. -/
def sampleEnv : UpdateEnv where
  tempDir := .ok ()
  call _ := .ok [.ok (sampleArchive.take 7), .ok ((sampleArchive.drop 7).take 20),
    .ok (sampleArchive.drop 27), .ok []]
  createArchive := .ok ()
  openArchive := .ok ()
  createExe := .ok ()
  selfReplace _ := .ok ()

def sampleUpdater : Updater :=
  ⟨⟨"x86_64-unknown-linux-gnu", "https://update.craftip.net/a.xz", sampleSignatureText, 60⟩, "0.2.0", ""⟩

theorem new_sample : new sampleCrates "0.1.0" (.ok (.ok sampleRelease)) = .ok (some sampleUpdater) := rfl

theorem update_sample :
    sampleUpdater.update sampleCrates sampleEnv [111, 108, 100] = (.ok (), [110, 101, 119]) := by
  decide +kernel

theorem update_authentic_sample :
    ∃ release, (.ok (.ok sampleRelease) : Except String (Except String LatestRelease)) = .ok (.ok release) ∧
      Authentic sampleCrates "0.1.0" release sampleEnv [110, 101, 119] := by
  have hsigned : ∀ message signature, sampleCrates.verifyEd25519 DISTRIBUTION_PUBLIC_KEY message signature = true →
      sampleSigned signature = some message := fun _ _ h => of_decide_eq_true h
  have h := update_authentic hsigned new_sample sampleEnv [111, 108, 100]
  have hexe := h.2.2.1 (congrArg Prod.fst update_sample)
  rw [update_sample] at hexe
  exact h.1 _ hexe

end Updater
end CraftIP
