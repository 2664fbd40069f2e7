import CraftIP.Crypto
import CraftIP.Minecraft
import CraftIP.Register

/-!
# Spellings of a hostname

A player's client may send dots behind the host name, a NUL and more behind these, and one label with
`random-` in front. The name of a public key comes out of every such spelling (`spelling_routes`).
-/

namespace CraftIP
open MinecraftHelloPacket (beforeNul)

def BASE36_ENCODER_STRING : String := "0123456789abcdefghijklmnopqrstuvwxyz"

/-- What the crates are taken to do: a digest has 32 bytes, and of 32 bytes `base_x` makes at least as many
digits of the alphabet as are kept. -/
structure Crypto.Encodes (C : Crypto) : Prop where
  length_sha256 : ∀ m, (C.sha256 m).length = 32
  length_base36 : ∀ d, d.length = 32 → HOSTNAME_LENGTH ≤ (C.base36 d).toList.length
  digits : ∀ d, d.length = 32 → ∀ c ∈ (C.base36 d).toList, c ∈ BASE36_ENCODER_STRING.toList

/-- Nothing, or a NUL and anything. -/
def Tail (t : String) : Prop := t.toList = [] ∨ ∃ u, t.toList = '\x00' :: u

structure Label (w : String) : Prop where
  noDot : '.' ∉ w.toList
  noNul : '\x00' ∉ w.toList

def dots (k : Nat) : String := String.ofList (List.replicate k '.')

/-- The strings in a handshake that name the host `h`. -/
inductive Spelling (h : String) : String → Prop where
  | plain (k : Nat) {t : String} (ht : Tail t) : Spelling h (h ++ dots k ++ t)
  | random {w : String} (hw : Label w) (k : Nat) {t : String} (ht : Tail t) :
    Spelling h ("random-" ++ w ++ "." ++ h ++ dots k ++ t)

/-! ### The three steps on a list -/

theorem takeWhile_tail {l t : List Char} (hl : '\x00' ∉ l) (ht : t = [] ∨ ∃ u, t = '\x00' :: u) :
    (l ++ t).takeWhile (· ≠ '\x00') = l := by
  have hall : ∀ c ∈ l, decide (c ≠ '\x00') = true := fun c hc =>
    decide_eq_true fun he => hl (he ▸ hc)
  rw [List.takeWhile_append_of_pos hall]
  rcases ht with rfl | ⟨u, rfl⟩
  · exact List.append_nil l
  · exact List.append_nil l

theorem rdropWhile_dots {l : List Char} {c : Char} (hc : l.getLast? = some c) (hdot : c ≠ '.') (k : Nat) :
    (l ++ List.replicate k '.').rdropWhile (· = '.') = l := by
  induction k with
  | zero =>
    obtain ⟨l, rfl⟩ := List.getLast?_eq_some_iff.1 hc
    rw [List.replicate_zero, List.append_nil]
    exact List.rdropWhile_concat_neg _ _ _ (by simpa using hdot)
  | succ k ih =>
    rw [List.replicate_succ', ← List.append_assoc, List.rdropWhile_concat_pos _ _ _ (by simp), ih]

theorem dropWhile_label {w h : List Char} (hw : '.' ∉ w) :
    ((w ++ '.' :: h).dropWhile (· ≠ '.')).tail = h := by
  have hall : ∀ c ∈ w, decide (c ≠ '.') = true := fun c hc => decide_eq_true fun he => hw (he ▸ hc)
  rw [List.dropWhile_append_of_pos hall]
  rfl

/-- A name that the cut, the trim and the removal of a label leave as it is. -/
structure Stays (h : List Char) : Prop where
  noNul : '\x00' ∉ h
  last : ∃ c, h.getLast? = some c ∧ c ≠ '.'
  notRandom : "random-".toList.isPrefixOf h = false

theorem Stays.cleanUp_plain {h : List Char} (hh : Stays h) (k : Nat) :
    cleanUpHostname (String.ofList (h ++ List.replicate k '.')) = String.ofList h := by
  obtain ⟨c, hc, hdot⟩ := hh.last
  rw [cleanUpHostname]
  simp only [String.toList_ofList, rdropWhile_dots hc hdot, hh.notRandom, Bool.false_eq_true, if_false]

theorem Stays.cleanUp_random {h w : List Char} (hh : Stays h) (hw : '.' ∉ w) (k : Nat) :
    cleanUpHostname (String.ofList ("random-".toList ++ w ++ '.' :: h ++ List.replicate k '.')) =
      String.ofList h := by
  obtain ⟨c, hc, hdot⟩ := hh.last
  have hlast : ("random-".toList ++ w ++ '.' :: h).getLast? = some c := by
    rw [List.getLast?_append, List.getLast?_cons, hc]
    rfl
  have hlabel : '.' ∉ "random-".toList ++ w := by
    rw [List.mem_append]
    exact fun hmem => hmem.elim (by decide) hw
  have hprefix : "random-".toList.isPrefixOf ("random-".toList ++ w ++ '.' :: h) = true := by
    rw [List.isPrefixOf_iff_prefix, List.append_assoc]
    exact List.prefix_append _ _
  rw [cleanUpHostname]
  simp only [String.toList_ofList, rdropWhile_dots hlast hdot, hprefix, if_true, dropWhile_label hlabel]

/-- Every spelling is cut and cleaned to the name. -/
theorem Stays.cleanUp_spelling {h s : String} (hh : Stays h.toList) (hs : Spelling h s) :
    cleanUpHostname (beforeNul s) = h := by
  have hdots : ∀ k, '\x00' ∉ List.replicate k '.' := fun k hmem =>
    absurd (List.eq_of_mem_replicate hmem) (by decide)
  cases hs with
  | @plain k t ht =>
    have hcut : beforeNul (h ++ dots k ++ t) = String.ofList (h.toList ++ List.replicate k '.') := by
      rw [beforeNul, String.toList_append, String.toList_append, dots, String.toList_ofList, takeWhile_tail _ ht]
      rw [List.mem_append]
      exact fun hmem => hmem.elim hh.noNul (hdots k)
    rw [hcut, hh.cleanUp_plain, String.ofList_toList]
  | @random w hw k t ht =>
    have hcut : beforeNul ("random-" ++ w ++ "." ++ h ++ dots k ++ t) =
        String.ofList ("random-".toList ++ w.toList ++ '.' :: h.toList ++ List.replicate k '.') := by
      have hlist : ("random-" ++ w ++ "." ++ h ++ dots k ++ t).toList =
          ("random-".toList ++ w.toList ++ '.' :: h.toList ++ List.replicate k '.') ++ t.toList := by
        simp only [dots, String.toList_append, String.toList_ofList]
        simp only [List.append_assoc]
        rfl
      rw [beforeNul, hlist, takeWhile_tail _ ht]
      simp only [List.mem_append, List.mem_cons, not_or]
      exact ⟨⟨⟨by decide, hw.noNul⟩, by decide, hh.noNul⟩, hdots k⟩
    rw [hcut, hh.cleanUp_random hw.noDot, String.ofList_toList]

/-! ### The name of a key -/

namespace ServerPublicKey
variable {C : Crypto}

theorem mem_digits {c : Char} (hc : c ∈ BASE36_ENCODER_STRING.toList) : c ≠ '\x00' ∧ c ≠ '-' := by
  have hall : BASE36_ENCODER_STRING.toList.all (fun c => c ≠ '\x00' ∧ c ≠ '-') = true := by decide
  exact of_decide_eq_true (List.all_eq_true.mp hall c hc)

/-- A name has twenty digits of the alphabet in front of the suffix. -/
theorem exists_digits (hC : C.Encodes) (k : ServerPublicKey) :
    ∃ host : List Char, host.length = 20 ∧ (∀ c ∈ host, c ∈ BASE36_ENCODER_STRING.toList) ∧
      k.getHostname C = String.ofList host ++ KEY_SERVER_SUFFIX := by
  have hdigest := hC.length_sha256 (Unicode.utf8 PREFIX ++ k.key.toList)
  refine ⟨_, ?_, fun c hc => hC.digits _ hdigest c (List.mem_of_mem_take hc), rfl⟩
  exact List.length_take_of_le (hC.length_base36 _ hdigest)

/-- The seventh letter of `random-` is no digit. -/
theorem stays_getHostname (hC : C.Encodes) (k : ServerPublicKey) : Stays (k.getHostname C).toList := by
  obtain ⟨host, hlen, hdigits, hname⟩ := exists_digits hC k
  rw [hname, String.toList_append, String.toList_ofList]
  refine ⟨?_, ⟨'t', ?_, by decide⟩, ?_⟩
  · rw [List.mem_append]
    exact fun hmem => hmem.elim (fun hc => (mem_digits (hdigits _ hc)).1 rfl) (by decide)
  · rw [List.getLast?_append]
    rfl
  · rw [Bool.eq_false_iff, ne_eq, List.isPrefixOf_iff_prefix]
    intro hprefix
    have hhost := List.prefix_of_prefix_length_le hprefix (List.prefix_append host _)
      (show "random-".toList.length ≤ host.length by rw [hlen]; decide)
    exact (mem_digits (hdigits '-' (hhost.mem (by decide)))).2 rfl

/-- Every spelling of the name of a key leads to the channel that was added under the name; the name is twenty
digits and the suffix. -/
theorem spelling_routes (hC : C.Encodes) (k : ServerPublicKey) :
    (∃ host : List Char, host.length = 20 ∧ (∀ c ∈ host, c ∈ BASE36_ENCODER_STRING.toList) ∧
      k.getHostname C = String.ofList host ++ KEY_SERVER_SUFFIX) ∧
    ∀ s, Spelling (k.getHostname C) s →
      cleanUpHostname (beforeNul s) = k.getHostname C ∧
      ∀ (Tx : Type) (r r' : Register Tx) (tx : Tx), r.addServer (k.getHostname C) tx = .ok r' →
        r'.getServer (cleanUpHostname (beforeNul s)) = some tx := by
  refine ⟨exists_digits hC k, fun s hs => ?_⟩
  have hclean := (stays_getHostname hC k).cleanUp_spelling hs
  refine ⟨hclean, fun Tx r r' tx hadd => ?_⟩
  rw [hclean, (Register.addServer_eq_ok hadd).2, if_pos rfl]

/-- The crates where they are called for the key; any other digest is zero, and zero bytes are zero digits. -/
def encodingCrypto : Crypto where
  sha256 m := if m = Unicode.utf8 PREFIX ++ sample.key.toList then sampleChecksum else .replicate 32 0
  base36 b :=
    if b = sampleChecksum then "3grfiewn7rkrpizi11dmamooxbd3t275fzp2z21dn7x2umplpk"
    else String.ofList (.replicate b.length '0')
  verifyEd25519 := sampleCrypto.verifyEd25519

theorem encodes_encodingCrypto : encodingCrypto.Encodes where
  length_sha256 m := by
    simp only [encodingCrypto]
    split
    · rfl
    · exact List.length_replicate
  length_base36 d hd := by
    simp only [encodingCrypto]
    split
    · decide
    · rw [String.toList_ofList, List.length_replicate, hd]
      decide
  digits d _ c hc := by
    simp only [encodingCrypto] at hc
    split at hc
    · have hall : "3grfiewn7rkrpizi11dmamooxbd3t275fzp2z21dn7x2umplpk".toList.all
          (BASE36_ENCODER_STRING.toList.contains ·) = true := by decide
      exact List.contains_iff_mem.mp (List.all_eq_true.mp hall c hc)
    · rw [String.toList_ofList] at hc
      rw [List.eq_of_mem_replicate hc]
      decide

/-- A label that looks like the prefix, two dots, and what Forge sends. -/
theorem spelling_routes_sample :
    cleanUpHostname (beforeNul "random-random-1.3grfiewn7rkrpizi11dm.t.craftip.net..\x00FORGE") =
      "3grfiewn7rkrpizi11dm.t.craftip.net" := by
  have hname : sample.getHostname encodingCrypto = "3grfiewn7rkrpizi11dm.t.craftip.net" := by decide +kernel
  have h := (spelling_routes encodes_encodingCrypto sample).2
  rw [hname] at h
  exact (h _ (.random (w := "random-1") ⟨by decide, by decide⟩ 2 (t := "\x00FORGE") (.inr ⟨_, rfl⟩))).1

end ServerPublicKey
end CraftIP
