import CraftIP.Lib.BufWriter
import CraftIP.Updater

/-!
# The unpacked file (`updater/src/updater_proto.rs`)

`decompress` on a file whose writes may fail. The content goes through a buffered writer that is dropped without
a flush: an error of the writes before the drop is returned, and one of the last block is lost
(`reports_iff`). With no failed write it is `Updater.decompress` (`decompressInto_eq`).
-/

namespace CraftIP

namespace Updater
variable {Version : Type} (U : UpdaterCrates Version) (results : Nat → Except String Nat)

/-- The capacity of a `BufWriter`. -/
def DEFAULT_BUF_SIZE : Nat := 8 * 1024

/-- The loop of `decompress`, up to a read that gives nothing. -/
def decompressIntoLoop (output : BufWriter UInt8) :
    List (Option (List UInt8)) → Except UpdaterError Unit × BufWriter UInt8
  | [] => (.ok (), output)
  | none :: _ => (.error .decompressionFailed, output)
  | some buf :: reads =>
    if buf.length = 0 then (.ok (), output)
    else
      match output.writeAll DEFAULT_BUF_SIZE results buf with
      | (.error e, output) => (.error (.ioError e), output)
      | (.ok (), output) => decompressIntoLoop output reads

/-- `decompress`: what it returns, and the file behind it. The writer is dropped at the end. -/
def decompressInto (env : UpdateEnv) (archive : List UInt8) : Except UpdaterError Unit × File UInt8 :=
  match env.openArchive with
  | .error e => (.error (.ioError e), .empty)
  | .ok () =>
    match env.createExe with
    | .error e => (.error (.ioError e), .empty)
    | .ok () =>
      match decompressIntoLoop results (.new .empty) (U.xzReads archive) with
      | (r, output) => (r, output.drop results)

/-- `update` up to the call of `decompress`: the archive. -/
def verifiedArchive (env : UpdateEnv) (updater : Updater) : Except UpdaterError (List UInt8) :=
  match env.tempDir with
  | .error e => .error (.ioError e)
  | .ok () =>
    match env.call updater.target.url with
    | .error e => .error (.requestError e)
    | .ok src =>
      match env.createArchive with
      | .error e => .error (.ioError e)
      | .ok () =>
        match download U.sha512 U.sha512.new [] src with
        | .error e => .error e
        | .ok (hash, archive) =>
          match verifySignature U (U.sha512.finish hash) updater.version updater.target.signature with
          | .error e => .error e
          | .ok () => .ok archive

/-- `update`, with the writes to the unpacked file. -/
def updateInto (env : UpdateEnv) (updater : Updater) (executable : List UInt8) :
    Except UpdaterError Unit × List UInt8 :=
  match updater.verifiedArchive U env with
  | .error e => (.error e, executable)
  | .ok archive =>
    match decompressInto U results env archive with
    | (.error e, _) => (.error e, executable)
    | (.ok (), dest) =>
      match env.selfReplace dest.content with
      | .error e => (.error (.replaceFailed e), executable)
      | .ok () => (.ok (), dest.content)

/-! ### The content -/

/-- The pieces that are read before a read that gives nothing or fails. -/
def pieces : List (Option (List UInt8)) → List (List UInt8)
  | [] => []
  | none :: _ => []
  | some buf :: reads => if buf.length = 0 then [] else buf :: pieces reads

/-- No read fails. -/
def Readable : List (Option (List UInt8)) → Prop
  | [] => True
  | none :: _ => False
  | some buf :: reads => buf.length = 0 ∨ Readable reads

/-- If `decompress` returns without an error the file is the whole content; a failed write makes it return an
error; and if `update` returns without an error for the archive, the program is the whole content. -/
structure Reports (env : UpdateEnv) (archive : List UInt8) : Prop where
  complete : ∀ dest, decompressInto U results env archive = (.ok (), dest) →
    Readable (U.xzReads archive) ∧ dest.content = (pieces (U.xzReads archive)).flatten
  reported : ∀ r dest, decompressInto U results env archive = (r, dest) →
    (∃ i, i < dest.calls ∧ File.Fails results i) → ∃ e, r = .error e
  program : ∀ (updater : Updater) (executable program : List UInt8), updater.verifiedArchive U env = .ok archive →
    updater.updateInto U results env executable = (.ok (), program) →
    Readable (U.xzReads archive) ∧ program = (pieces (U.xzReads archive)).flatten

/-- The blocks of the content that are written before the drop, and the last one. -/
def writtenBlocks (archive : List UInt8) : List (List UInt8) × List UInt8 :=
  BufWriter.blocks DEFAULT_BUF_SIZE [] (pieces (U.xzReads archive))

/-- The archive cannot be read to its end, a file cannot be opened, a block before the last one cannot be
written, or the last one can. -/
def LastBlockWritten (env : UpdateEnv) (archive : List UInt8) : Prop :=
  Readable (U.xzReads archive) → env.openArchive = .ok () → env.createExe = .ok () →
    ∀ f, File.empty.writeBlocks results (writtenBlocks U archive).1 = (.ok (), f) →
      (f.writeAll results (writtenBlocks U archive).2).1 = .ok ()

/-! ### The run of `decompress` -/

section
variable {U results} {env : UpdateEnv} {archive : List UInt8}

theorem decompressIntoLoop_eq_ok_iff {output output' : BufWriter UInt8} {reads : List (Option (List UInt8))} :
    decompressIntoLoop results output reads = (.ok (), output') ↔
      Readable reads ∧ output.writeChunks DEFAULT_BUF_SIZE results (pieces reads) = (.ok (), output') := by
  fun_induction decompressIntoLoop results output reads with
  | case1 output =>
    have hreadable : Readable [] := by rw [Readable]; trivial
    rw [pieces, BufWriter.writeChunks]
    constructor
    · intro h
      cases h
      exact ⟨hreadable, rfl⟩
    · intro h
      cases h.2
      rfl
  | case2 output reads =>
    have hreadable : ¬ Readable (none :: reads) := by rw [Readable]; exact id
    exact iff_of_false (fun h => by cases h) fun h => hreadable h.1
  | case3 output buf reads hempty =>
    have hreadable : Readable (some buf :: reads) := by rw [Readable]; exact .inl hempty
    rw [pieces, if_pos hempty, BufWriter.writeChunks]
    constructor
    · intro h
      cases h
      exact ⟨hreadable, rfl⟩
    · intro h
      cases h.2
      rfl
  | case4 output buf reads hne e output₁ hwrite =>
    rw [pieces, if_neg hne, BufWriter.writeChunks, hwrite]
    exact iff_of_false (fun h => by cases h) fun h => by cases h.2
  | case5 output buf reads hne output₁ hwrite ih =>
    have hreadable : Readable (some buf :: reads) ↔ Readable reads := by rw [Readable]; exact or_iff_right hne
    rw [pieces, if_neg hne, BufWriter.writeChunks, hwrite, ih, hreadable]

/-- A run without an error: the blocks are written, and the last one as far as it goes. -/
theorem decompressInto_eq_ok_iff {dest : File UInt8} :
    decompressInto U results env archive = (.ok (), dest) ↔
      env.openArchive = .ok () ∧ env.createExe = .ok () ∧ Readable (U.xzReads archive) ∧
        ∃ f, File.empty.writeBlocks results (writtenBlocks U archive).1 = (.ok (), f) ∧
          (f.writeAll results (writtenBlocks U archive).2).2.2 = dest := by
  rw [decompressInto]
  cases hopen : env.openArchive with
  | error e => exact iff_of_false (fun h => by cases h) fun h => by cases h.1
  | ok _ =>
    cases hcreate : env.createExe with
    | error e => exact iff_of_false (fun h => by cases h) fun h => by cases h.2.1
    | ok _ =>
      have hrun := fun output' => @decompressIntoLoop_eq_ok_iff results (.new .empty) output' (U.xzReads archive)
      generalize decompressIntoLoop results (.new .empty) (U.xzReads archive) = run at hrun
      obtain ⟨r, output⟩ := run
      simp only [true_and]
      rcases @BufWriter.writeChunks_cases _ DEFAULT_BUF_SIZE results (.new .empty) (pieces (U.xzReads archive)) with
        ⟨f, hblocks, hchunks⟩ | ⟨e, e', f, left, hblocks, hchunks⟩
      · rw [hchunks] at hrun
        have hdrop := @BufWriter.drop_eq _ results ⟨f, (writtenBlocks U archive).2⟩
        constructor
        · intro h
          cases h
          obtain ⟨hread, hout⟩ := (hrun output).1 rfl
          cases hout
          exact ⟨hread, f, hblocks, hdrop.symm⟩
        · rintro ⟨hread, f', hblocks', rfl⟩
          cases hblocks.symm.trans hblocks'
          cases (hrun _).2 ⟨hread, rfl⟩
          exact congrArg (Prod.mk _) hdrop
      · rw [hchunks] at hrun
        refine iff_of_false (fun h => ?_) fun ⟨hread, f', hblocks', _⟩ => ?_
        · cases h
          cases ((hrun output).1 rfl).2
        · cases hblocks.symm.trans hblocks'

/-- The blocks are the content. -/
theorem writtenBlocks_flatten (archive : List UInt8) :
    (writtenBlocks U archive).1.flatten ++ (writtenBlocks U archive).2 = (pieces (U.xzReads archive)).flatten :=
  BufWriter.blocks_flatten (Nat.zero_le _) _

/-- Where the last block is written, a run without an error has written the whole content and no call failed. -/
theorem LastBlockWritten.writes (h : LastBlockWritten U results env archive) {dest : File UInt8}
    (hok : decompressInto U results env archive = (.ok (), dest)) :
    Readable (U.xzReads archive) ∧ File.Writes results .empty (pieces (U.xzReads archive)).flatten dest := by
  obtain ⟨hopen, hcreate, hread, f, hblocks, rfl⟩ := decompressInto_eq_ok_iff.1 hok
  have hlast := h hread hopen hcreate f hblocks
  refine ⟨hread, ?_⟩
  rw [← writtenBlocks_flatten]
  rcases @File.writeAll_cases _ results f (writtenBlocks U archive).2 with
    ⟨f', hwrite, hw⟩ | ⟨e, left, f', hwrite, -⟩
  · rw [hwrite]
    exact (File.writeBlocks_eq_ok hblocks).trans hw
  · rw [hwrite] at hlast
    cases hlast

theorem LastBlockWritten.reports (h : LastBlockWritten U results env archive) : Reports U results env archive where
  complete dest hok := by
    obtain ⟨hread, hw⟩ := h.writes hok
    exact ⟨hread, hw.content⟩
  reported r dest hrun hfails := by
    cases r with
    | error e => exact ⟨e, rfl⟩
    | ok u =>
      obtain ⟨i, hi, hf⟩ := hfails
      exact absurd hf ((h.writes hrun).2.succeeds i (Nat.zero_le i) hi)
  program updater executable program harchive hupdate := by
    simp only [updateInto, harchive] at hupdate
    rcases hrun : decompressInto U results env archive with ⟨e | u, dest⟩
    · rw [hrun] at hupdate
      cases hupdate
    · rw [hrun] at hupdate
      obtain ⟨hread, hw⟩ := h.writes hrun
      simp only at hupdate
      split at hupdate
      · cases hupdate
      · cases hupdate
        exact ⟨hread, hw.content⟩

/-- For every archive and whatever the calls of the file come to: every lost byte is reported if and only if no
call fails on the last block, unless an error is returned before. -/
theorem reports_iff (U : UpdaterCrates Version) (results : Nat → Except String Nat) (env : UpdateEnv)
    (archive : List UInt8) : Reports U results env archive ↔ LastBlockWritten U results env archive := by
  refine ⟨fun h hread hopen hcreate f hblocks => ?_, LastBlockWritten.reports⟩
  rcases @File.writeAll_cases _ results f (writtenBlocks U archive).2 with
    ⟨f', hwrite, -⟩ | ⟨e, left, f', hwrite, hb⟩
  · rw [hwrite]
  · -- the file would be shorter than the content
    have hok := decompressInto_eq_ok_iff.2 ⟨hopen, hcreate, hread, f, hblocks, rfl⟩
    rw [hwrite] at hok
    have hcontent := (h.complete f' hok).2
    have hshort := ((File.writeBlocks_eq_ok hblocks).breaks hb).content
    rw [writtenBlocks_flatten, hcontent] at hshort
    exact absurd hshort (Nat.lt_irrefl _)

/-- No room for the three bytes of the archive: they are written when the writer is dropped. -/
theorem not_reports :
    ¬ Reports sampleCrates (fun _ => .error "No space left on device (os error 28)") sampleEnv sampleArchive := by
  intro h
  have hrun : decompressInto sampleCrates (fun _ => .error "No space left on device (os error 28)") sampleEnv
      sampleArchive = (.ok (), ⟨[], 1⟩) := by decide +kernel
  have hcontent := (h.complete _ hrun).2
  have hpieces : (pieces (sampleCrates.xzReads sampleArchive)).flatten = [110, 101, 119] := by decide +kernel
  rw [hpieces] at hcontent
  cases hcontent

/-! ### The model without failing writes -/

theorem decompressed_eq_some_iff {reads : List (Option (List UInt8))} (hreads : some [] ∉ reads)
    {file : List UInt8} :
    decompressed reads = some file ↔ Readable reads ∧ file = (pieces reads).flatten := by
  induction reads generalizing file with
  | nil => simp [decompressed, Readable, pieces, eq_comm]
  | cons read reads ih =>
    rw [List.mem_cons, not_or] at hreads
    cases read with
    | none => simp [decompressed, Readable]
    | some buf =>
      have hne : buf.length ≠ 0 := fun he => hreads.1 (by rw [List.eq_nil_of_length_eq_zero he])
      rw [decompressed, Option.map_eq_some_iff, Readable, or_iff_right hne, pieces, if_neg hne, List.flatten_cons]
      constructor
      · rintro ⟨plain, hplain, rfl⟩
        obtain ⟨hread, rfl⟩ := (ih hreads.2).1 hplain
        exact ⟨hread, rfl⟩
      · rintro ⟨hread, rfl⟩
        exact ⟨_, (ih hreads.2).2 ⟨hread, rfl⟩, rfl⟩

theorem decompress_eq_ok_iff {file : List UInt8} :
    decompress U env archive = .ok file ↔
      env.openArchive = .ok () ∧ env.createExe = .ok () ∧ decompressed (U.xzReads archive) = some file := by
  constructor
  · intro h
    have hplain := decompress_eq_ok h
    rw [decompress] at h
    split at h
    · cases h
    · next hopen =>
      split at h
      · cases h
      · next hcreate => exact ⟨hopen, hcreate, hplain⟩
  · rintro ⟨hopen, hcreate, hplain⟩
    rw [decompress, hopen, hcreate]
    exact decompressLoop_of_decompressed hplain

/-- Where every call writes something, and a read that gives nothing is the end, the file is that of
`Updater.decompress`. -/
theorem decompressInto_eq (hwrites : ∀ i, ¬ File.Fails results i) (hreads : some [] ∉ U.xzReads archive)
    (file : List UInt8) :
    (∃ dest, decompressInto U results env archive = (.ok (), dest) ∧ dest.content = file) ↔
      decompress U env archive = .ok file := by
  obtain ⟨f, hblocks⟩ := File.writeBlocks_of_not_fails hwrites .empty (writtenBlocks U archive).1
  have hlast : LastBlockWritten U results env archive := fun _ _ _ f' _ => by
    obtain ⟨f'', hwrite⟩ := File.writeAll_of_not_fails hwrites f' (writtenBlocks U archive).2
    rw [hwrite]
  rw [decompress_eq_ok_iff, decompressed_eq_some_iff hreads]
  constructor
  · rintro ⟨dest, hok, rfl⟩
    obtain ⟨hopen, hcreate, -⟩ := decompressInto_eq_ok_iff.1 hok
    obtain ⟨hread, hw⟩ := hlast.writes hok
    exact ⟨hopen, hcreate, hread, hw.content⟩
  · rintro ⟨hopen, hcreate, hread, rfl⟩
    have hok := decompressInto_eq_ok_iff.2 ⟨hopen, hcreate, hread, f, hblocks, rfl⟩
    exact ⟨_, hok, (hlast.writes hok).2.content⟩

end

end Updater
end CraftIP
