import Mathlib.Data.Nat.Bitwise
import Silbo.Proofs.Chain
import Silbo.Text.NormalForm

/-!
What characters are spelled with. A spelling is plain to its last character and never empty, and a
pair that composes is spelled as what it becomes. Of Hangul this is arithmetic. Of the tables it is
decided entry by entry, for which a set of code points is kept as the bits of one number and a
spelling is looked up in the one block whose span holds the code point.
-/
namespace Silbo.Text

section Coverage

def bitsOf (row : List Nat) : Nat := row.foldr (fun n set => set ||| 1 <<< n) 0

theorem testBit_bitsOf {row : List Nat} : (bitsOf row).testBit n = true ↔ n ∈ row := by
  induction row with
  | nil => simp [bitsOf]
  | cons m row ih =>
    have hbit : (1 <<< m).testBit n = true ↔ n = m := by
      rw [Nat.one_shiftLeft, Nat.testBit_two_pow, decide_eq_true_eq, eq_comm]
    rw [bitsOf, List.foldr_cons, ← bitsOf, Nat.testBit_or, Bool.or_eq_true, ih, hbit,
      List.mem_cons, or_comm]

def coverage (rows : List (List Nat)) : Nat := rows.foldr (fun row set => bitsOf row ||| set) 0

def covered (rows : List (List Nat)) (n : Nat) : Bool := (coverage rows).testBit n

theorem covered_iff {rows : List (List Nat)} :
    covered rows n = true ↔ ∃ row ∈ rows, n ∈ row := by
  unfold covered
  induction rows with
  | nil => simp [coverage]
  | cons row rows ih =>
    rw [coverage, List.foldr_cons, ← coverage, Nat.testBit_or, Bool.or_eq_true, testBit_bitsOf, ih]
    simp

theorem not_mem_of_not_covered {rows : List (List Nat)} (h : covered rows n = false) :
    ∀ row ∈ rows, n ∉ row := by
  intro row hr hn
  rw [covered_iff.2 ⟨row, hr, hn⟩] at h
  cases h

end Coverage

section Table

def Block.codes (b : Block) : List Nat := List.range' b.first b.spellings.length

def Block.rows (b : Block) : List (Nat × List Nat) := b.codes.zip b.spellings

def Shift.block (s : Shift) : Block where
  first := s.first
  spellings := (List.range' s.image (s.last + 1 - s.first)).map fun n => [n]

theorem Block.spelling?_beyond {b : Block} (h : b.first + b.spellings.length ≤ n) :
    b.spelling? n = none := by
  unfold spelling?
  split
  · exact List.getElem?_eq_none (by omega)
  · rfl

/-- A look-up that does not walk through the spellings of a block that ends before. -/
def Block.find? (b : Block) (n : Nat) : Option (List Nat) :=
  if Nat.ble b.first n && Nat.blt n (b.first + b.spellings.length) then b.spellings[n - b.first]?
  else none

theorem Block.find?_eq (b : Block) (n : Nat) : b.find? n = b.spelling? n := by
  unfold find?
  simp only [Bool.and_eq_true, Nat.ble_eq, Nat.blt_eq]
  split
  · next h => rw [spelling?, if_pos h.1]
  · next h =>
    by_cases hf : b.first ≤ n
    · rw [spelling?_beyond (by omega)]
    · rw [spelling?, if_neg hf]

theorem Shift.block_spelling? (s : Shift) (n : Nat) : s.block.spelling? n = s.spelling? n := by
  unfold Block.spelling? Shift.spelling? Shift.block
  by_cases hf : s.first ≤ n
  · by_cases hl : n ≤ s.last
    · have hk : n - s.first < s.last + 1 - s.first := by omega
      simp [hf, hl, hk]
    · have hk : s.last + 1 - s.first ≤ n - s.first := by omega
      simp [hf, hl, hk]
  · simp [hf]

theorem Block.spelling?_some {b : Block} (h : b.spelling? n = some s) : (n, s) ∈ b.rows := by
  unfold Block.spelling? at h
  split at h
  · next hf =>
    obtain ⟨hk, -⟩ := List.getElem?_eq_some_iff.1 h
    have hcode : b.codes[n - b.first]? = some n := by
      rw [codes, List.getElem?_range' (by omega)]
      congr 1
      omega
    exact List.mem_of_getElem? (List.getElem?_zip_eq_some.2 ⟨hcode, h⟩)
  · cases h

def blocksOf (shifts : List Shift) (blocks : List Block) : List Block :=
  shifts.map Shift.block ++ blocks

theorem spellingIn_eq (shifts : List Shift) (blocks : List Block) (n : Nat) :
    spellingIn shifts blocks n = (blocksOf shifts blocks).findSome? (·.spelling? n) := by
  unfold spellingIn blocksOf
  rw [List.findSome?_append, List.findSome?_map]
  simp only [Function.comp_def, Shift.block_spelling?]

/-- The blocks from the first one on that does not end at a bound. -/
def reaching (bound : Nat) (blocks : List Block) : List Block :=
  blocks.dropWhile fun b => Nat.ble (b.first + b.spellings.length) bound

theorem reaching_spelling? (h : bound ≤ n) (blocks : List Block) :
    (reaching bound blocks).findSome? (·.spelling? n) = blocks.findSome? (·.spelling? n) := by
  induction blocks with
  | nil => rfl
  | cons b blocks ih =>
    unfold reaching at ih ⊢
    rw [List.dropWhile_cons]
    split
    · next hb =>
      have hend : b.first + b.spellings.length ≤ bound := by simpa using hb
      rw [ih, List.findSome?_cons, Block.spelling?_beyond (by omega)]
    · rfl

/-- The blocks to search for a code point. Half of what composes lies at the end of a region. -/
def regionOf (n : Nat) : List Block :=
  if n < 0x1E00 then blocksOf latinShifts latinBlocks
  else if n < 0x2000 then reaching 0x1E00 (blocksOf latinShifts latinBlocks)
  else if n < 0x3000 then blocksOf symbolsShifts symbolsBlocks
  else if n < 0x3400 then blocksOf enclosedShifts enclosedBlocks
  else if n < 0x10000 then blocksOf presentationShifts presentationBlocks
  else blocksOf supplementShifts supplementBlocks

def table : List Block :=
  blocksOf latinShifts latinBlocks ++ blocksOf symbolsShifts symbolsBlocks ++
    blocksOf enclosedShifts enclosedBlocks ++ blocksOf presentationShifts presentationBlocks ++
    blocksOf supplementShifts supplementBlocks

def spelled : List (List Nat) := table.map Block.codes

theorem regionOf_subset (n : Nat) : regionOf n ⊆ table := by
  intro b hb
  unfold regionOf at hb
  unfold table
  simp only [List.mem_append]
  split_ifs at hb
  · simp [hb]
  · simp [(List.dropWhile_subset _) hb]
  all_goals simp [hb]

def isSyllable (n : Nat) : Bool := Nat.ble 0xAC00 n && Nat.blt n 0xD7A4

theorem isSyllable_iff : isSyllable n = true ↔ 0xAC00 ≤ n ∧ n < 0xD7A4 := by
  simp [isSyllable, Nat.ble_eq, Nat.blt_eq]

theorem spelling?_syllable (h : isSyllable n = true) : spelling? n = some (syllableSpelling n) := by
  rw [isSyllable_iff] at h
  unfold spelling?
  rw [if_neg (by omega), if_pos h]

theorem spelling?_eq (h : isSyllable n = false) :
    spelling? n = if n < 0xA0 then none else (regionOf n).findSome? (·.spelling? n) := by
  have hs : ¬ (0xAC00 ≤ n ∧ n < 0xD7A4) := by
    rw [← isSyllable_iff, h]
    decide
  unfold spelling? regionOf
  rw [if_neg hs]
  simp only [spellingIn_eq]
  split_ifs
  · rfl
  · rfl
  · rw [reaching_spelling? (by omega)]
  all_goals first | rfl | omega

theorem spelling?_some (h : spelling? n = some s) :
    isSyllable n = true ∧ s = syllableSpelling n ∨ ∃ b ∈ table, (n, s) ∈ b.rows := by
  by_cases hs : isSyllable n = true
  · rw [spelling?_syllable hs, Option.some.injEq] at h
    exact .inl ⟨hs, h.symm⟩
  · rw [spelling?_eq (by simpa using hs)] at h
    split at h
    · cases h
    · obtain ⟨b, hb, he⟩ := List.exists_of_findSome?_eq_some h
      exact .inr ⟨b, regionOf_subset n hb, Block.spelling?_some he⟩

end Table

section Plain

theorem table_first : (table.all fun b => Nat.ble 0xA0 b.first) = true := by decide +kernel

theorem not_spelled_of_lt (hn : n < 0xA0) : covered spelled n = false := by
  by_contra h
  obtain ⟨row, hr, hm⟩ := covered_iff.1 (Bool.not_eq_false _ ▸ h)
  obtain ⟨b, hb, rfl⟩ := List.mem_map.1 hr
  have hfirst : 0xA0 ≤ b.first := by simpa using List.all_eq_true.1 table_first b hb
  have hle : b.first ≤ n := (List.mem_range'_1.1 hm).1
  omega

/-- Whether a code point has no spelling beside itself. -/
def isPlain (n : Nat) : Bool := !covered spelled n && !isSyllable n

theorem spelling?_eq_none (h : isPlain n = true) : spelling? n = none := by
  rw [isPlain, Bool.and_eq_true, Bool.not_eq_true', Bool.not_eq_true'] at h
  cases he : spelling? n with
  | none => rfl
  | some s =>
    rcases spelling?_some he with ⟨hs, -⟩ | ⟨b, hb, hrow⟩
    · rw [hs] at h
      cases h.2
    · exact absurd (List.of_mem_zip hrow).1
        (not_mem_of_not_covered h.1 _ (List.mem_map_of_mem hb))

/-- The spelling of a code point that is no Hangul syllable, as it is looked up. -/
def codesOf (n : Nat) : List Nat :=
  if covered spelled n then ((regionOf n).findSome? (·.find? n)).getD [n] else [n]

theorem spelling?_getD (h : isSyllable n = false) : (spelling? n).getD [n] = codesOf n := by
  unfold codesOf
  split
  · next hc =>
    have hn : ¬ n < 0xA0 := fun hn => by
      rw [not_spelled_of_lt hn] at hc
      cases hc
    rw [spelling?_eq h, if_neg hn]
    simp only [Block.find?_eq]
  · next hc => rw [spelling?_eq_none (by simp [isPlain, hc, h])]; rfl

theorem table_plain :
    (table.all fun b => b.rows.all fun row => !row.2.isEmpty && row.2.all isPlain) = true := by
  decide +kernel

/-- The consonants and vowels that Hangul syllables are made of. -/
def IsJamo (n : Nat) : Prop := 0x1100 ≤ n ∧ n < 0x11C3

theorem jamo_plain : (List.range' 0x1100 0xC3).all isPlain = true := by decide +kernel

theorem IsJamo.isPlain (h : IsJamo n) : isPlain n = true :=
  List.all_eq_true.1 jamo_plain n (List.mem_range'_1.2 h)

theorem syllableSpelling_eq (n : Nat) :
    syllableSpelling n = [0x1100 + (n - 0xAC00) / 588, 0x1161 + (n - 0xAC00) % 588 / 28] ++
      if (n - 0xAC00) % 28 = 0 then [] else [0x11A7 + (n - 0xAC00) % 28] := by
  unfold syllableSpelling
  dsimp only
  split <;> rfl

theorem isJamo_of_mem_syllableSpelling (hn : isSyllable n = true) (h : m ∈ syllableSpelling n) :
    IsJamo m := by
  rw [isSyllable_iff] at hn
  rw [syllableSpelling_eq, List.mem_append] at h
  unfold IsJamo
  rcases h with h | h
  · simp only [List.mem_cons, List.not_mem_nil, or_false] at h
    omega
  · split at h
    · cases h
    · rw [List.mem_singleton] at h
      omega

theorem spelling?_plain (h : spelling? n = some s) : s ≠ [] ∧ ∀ m ∈ s, isPlain m = true := by
  rcases spelling?_some h with ⟨hn, hs⟩ | ⟨b, hb, hrow⟩
  · rw [hs]
    have hne : syllableSpelling n ≠ [] := by simp [syllableSpelling_eq]
    exact ⟨hne, fun m hm => (isJamo_of_mem_syllableSpelling hn hm).isPlain⟩
  · have hall := List.all_eq_true.1 (List.all_eq_true.1 table_plain b hb) _ hrow
    rw [Bool.and_eq_true, List.all_eq_true] at hall
    exact ⟨by simpa using hall.1, hall.2⟩

end Plain

section Characters

theorem decompose_eq (c : Char) :
    decompose c = ((spelling? c.toNat).getD [c.toNat]).map Char.ofNat := by
  unfold decompose
  cases spelling? c.toNat <;> simp

theorem toNat_ofNat (n : Nat) : (Char.ofNat n).toNat = if n.isValidChar then n else 0 := by
  by_cases hn : n.isValidChar
  · rw [Char.ofNat, dif_pos hn, if_pos hn]
    rfl
  · rw [Char.ofNat, dif_neg hn, if_neg hn]
    rfl

def isChar (n : Nat) : Bool := Nat.blt n 0xD800 || Nat.ble 0xE000 n && Nat.blt n 0x110000

theorem toNat_ofNat_of_isChar (h : isChar n = true) : (Char.ofNat n).toNat = n := by
  have hv : n.isValidChar := by
    simp only [isChar, Bool.or_eq_true, Bool.and_eq_true, Nat.blt_eq, Nat.ble_eq] at h
    unfold Nat.isValidChar
    omega
  rw [toNat_ofNat, if_pos hv]

theorem toNat_ofNat_of_isSyllable (h : isSyllable n = true) : (Char.ofNat n).toNat = n := by
  apply toNat_ofNat_of_isChar
  rw [isSyllable_iff] at h
  simp only [isChar, Bool.or_eq_true, Bool.and_eq_true, Nat.blt_eq, Nat.ble_eq]
  omega

theorem decompose_of_isPlain (h : isPlain c.toNat = true) : decompose c = [c] := by
  rw [decompose_eq, spelling?_eq_none h]
  simp

theorem decompose_of_isSyllable (h : isSyllable c.toNat = true) :
    decompose c = (syllableSpelling c.toNat).map Char.ofNat := by
  rw [decompose_eq, spelling?_syllable h, Option.getD_some]

theorem decompose_plain (h : d ∈ decompose c) : decompose d = [d] := by
  unfold decompose at h
  split at h
  · next s hs =>
    obtain ⟨m, hm, rfl⟩ := List.mem_map.1 h
    apply decompose_of_isPlain
    rw [toNat_ofNat]
    split
    · exact (spelling?_plain hs).2 m hm
    · decide +kernel
  · next hs =>
    obtain rfl := List.mem_singleton.1 h
    unfold decompose
    rw [hs]

theorem decompose_ne_nil (c : Char) : decompose c ≠ [] := by
  unfold decompose
  split
  · next s hs => simpa using (spelling?_plain hs).1
  · simp

theorem compose?_some (h : compose? a b = some c) :
    ∃ n, c = Char.ofNat n ∧
      ((∃ row ∈ composites, row.1 = b.toNat ∧ (a.toNat, n) ∈ row.2) ∨
        composeSyllable? a.toNat b.toNat = some n) := by
  unfold compose? at h
  split at h
  · cases h
  · rw [Option.map_eq_some_iff] at h
    obtain ⟨n, hn, rfl⟩ := h
    refine ⟨n, rfl, ?_⟩
    rcases Option.or_eq_some_iff.1 hn with hn | ⟨-, hn⟩
    · obtain ⟨entries, hr, he⟩ := Option.bind_eq_some_iff.1 hn
      exact .inl ⟨_, mem_of_lookup hr, rfl, mem_of_lookup he⟩
    · exact .inr hn

theorem composites_spelled :
    (composites.all fun row => isPlain row.1 && row.2.all fun e =>
      isChar e.2 && !isSyllable e.1 && !isSyllable e.2 &&
        codesOf e.2 == codesOf e.1 ++ [row.1]) = true := by
  decide +kernel

theorem composeSyllable?_some (h : composeSyllable? a b = some n) :
    isSyllable n = true ∧ IsJamo b ∧
      (IsJamo a ∧ syllableSpelling n = [a, b] ∨
        isSyllable a = true ∧ syllableSpelling n = syllableSpelling a ++ [b]) := by
  unfold composeSyllable? at h
  unfold IsJamo
  simp only [isSyllable_iff, syllableSpelling_eq]
  split_ifs at h with hv ht
  · rw [Option.some.injEq] at h
    rw [if_pos (by omega)]
    refine ⟨by omega, by omega, .inl ⟨by omega, ?_⟩⟩
    simp only [List.append_nil, List.cons.injEq, and_true]
    omega
  · rw [Option.some.injEq] at h
    rw [if_neg (by omega), if_pos ht.2.2.1]
    refine ⟨by omega, by omega, .inr ⟨by omega, ?_⟩⟩
    simp only [List.cons_append, List.nil_append, List.cons.injEq, and_true]
    omega

theorem decompose_compose? (h : compose? a b = some c) :
    decompose b = [b] ∧ decompose c = decompose a ++ [b] := by
  obtain ⟨n, rfl, ⟨row, hr, hb, he⟩ | hn⟩ := compose?_some h
  · have hall := List.all_eq_true.1 composites_spelled row hr
    rw [Bool.and_eq_true, List.all_eq_true, hb] at hall
    have hentry := hall.2 _ he
    simp only [Bool.and_eq_true, Bool.not_eq_true', beq_iff_eq] at hentry
    obtain ⟨⟨⟨hc, ha⟩, hs⟩, hcodes⟩ := hentry
    refine ⟨decompose_of_isPlain hall.1, ?_⟩
    rw [decompose_eq, decompose_eq a, toNat_ofNat_of_isChar hc, spelling?_getD hs,
      spelling?_getD ha, hcodes]
    simp
  · obtain ⟨hs, hb, hparts⟩ := composeSyllable?_some hn
    have hc := toNat_ofNat_of_isSyllable hs
    refine ⟨decompose_of_isPlain hb.isPlain, ?_⟩
    rw [decompose_of_isSyllable (by rwa [hc]), hc]
    rcases hparts with ⟨ha, hp⟩ | ⟨ha, hp⟩
    · rw [hp, decompose_of_isPlain ha.isPlain]
      simp
    · rw [hp, decompose_of_isSyllable ha]
      simp

end Characters
end Silbo.Text
