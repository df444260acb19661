import Silbo.Proofs.Words
import Silbo.Proofs.Workspace

/-!
Tokens as tiles. A text that is cut into tokens is laid out in symbols, each followed by some copies
of the boundary; copies before the first symbol leave no trace, and of those behind a symbol the
first alone has a token, if there is another symbol to come.
-/
namespace Silbo

def Token.stop (t : Token) : Int := t.position + t.text.length

def copies (boundary : List Char) (n : Nat) : List Char := (List.replicate n boundary).flatten

/-- A symbol with the number of boundaries that stand directly behind it. -/
structure Tile where
  symbol : List Char
  boundaries : Nat

/-- Each tile in a row has the longest symbol where it stands, and no boundary begins there. What
follows the row is `rest`. -/
inductive Laid (boundary : List Char) (alphabet : List (List Char)) (rest : List Char) :
    List Char → List Tile → Prop where
  | done : Laid boundary alphabet rest [] []
  | tile : ¬ boundary <+: s ++ (copies boundary n ++ consumed) ++ rest →
      Longest alphabet (s ++ (copies boundary n ++ consumed) ++ rest) s →
      Laid boundary alphabet rest consumed tiles →
      Laid boundary alphabet rest (s ++ (copies boundary n ++ consumed)) (⟨s, n⟩ :: tiles)

/-- The scan of a text comes to what is left of it: copies of the boundary and then tiles lead there. -/
def Comes (boundary : List Char) (alphabet : List (List Char)) (consumed rest : List Char) : Prop :=
  ∃ n later tiles, consumed = copies boundary n ++ later ∧ Laid boundary alphabet rest later tiles

namespace Tile

def copyTokens (boundary : List Char) : Int → Nat → List Token
  | _, 0 => []
  | position, n + 1 =>
    ⟨String.ofList boundary, true, position⟩ ::
      copyTokens boundary (position + boundary.length) n

def allTokens (boundary : List Char) : Int → List Tile → List Token
  | _, [] => []
  | position, t :: tiles =>
    let behind := position + t.symbol.length
    ⟨String.ofList t.symbol, false, position⟩ ::
      (copyTokens boundary behind t.boundaries ++
        allTokens boundary (behind + (copies boundary t.boundaries).length) tiles)

/-- The token of copies of the boundary between two symbols, which stands for the first. -/
def gap (boundary : List Char) (position : Int) (n : Nat) (tiles : List Tile) : List Token :=
  if n = 0 ∨ tiles.isEmpty then [] else [⟨String.ofList boundary, true, position⟩]

def tokens (boundary : List Char) : Int → List Tile → List Token
  | _, [] => []
  | position, t :: tiles =>
    let behind := position + t.symbol.length
    ⟨String.ofList t.symbol, false, position⟩ ::
      (gap boundary behind t.boundaries tiles ++
        tokens boundary (behind + (copies boundary t.boundaries).length) tiles)

end Tile

/-- A symbol of a text, as a token: the longest that begins where it stands, and not empty. -/
structure Munched (boundary : String) (alphabet : List String) (offset : Int) (text : String)
    (t : Token) : Prop where
  mem : t.text ∈ alphabet
  ne_empty : t.text ≠ ""
  slice : ∃ before after : List Char, text.toList = before ++ (t.text.toList ++ after) ∧
    t.position = offset + before.length ∧ ¬ boundary.toList <+: t.text.toList ++ after ∧
    ∀ s ∈ alphabet, s.toList <+: t.text.toList ++ after → s.length ≤ t.text.length

/-- Symbols at their places, one after the other, and nothing but boundaries outside of them. -/
structure Tiled (boundary : String) (alphabet : List String) (offset : Int) (text : String)
    (tokens : List Token) : Prop where
  munched : ∀ t ∈ tokens, t.isBoundary = false → Munched boundary alphabet offset text t
  apart : tokens.Pairwise fun t u => t.stop ≤ u.position
  laid : ∃ n later tiles, text.toList = copies boundary.toList n ++ later ∧
    Laid boundary.toList (alphabet.map String.toList) [] later tiles ∧
    tokens = Tile.tokens boundary.toList (offset + (copies boundary.toList n).length) tiles

variable {boundary rest consumed later s : List Char} {alphabet : List (List Char)}
variable {tiles : List Tile} {position : Int}

section Squeezing

@[simp] theorem copies_zero (boundary : List Char) : copies boundary 0 = [] := rfl

theorem copies_succ (boundary : List Char) (n : Nat) :
    copies boundary (n + 1) = boundary ++ copies boundary n := by
  simp [copies, List.replicate_succ]

theorem copies_length (boundary : List Char) (n : Nat) :
    (copies boundary n).length = n * boundary.length := by
  simp [copies]

theorem squeeze_boundary {b : Token} (hb : b.isBoundary = true) (tokens : List Token) :
    squeeze (b :: tokens) = squeeze tokens := by
  simp [squeeze, hb]

theorem squeeze_symbol {t : Token} (ht : t.isBoundary = false) (tokens : List Token) :
    squeeze (t :: tokens) = t :: squeezeAfter none tokens := by
  simp [squeeze, squeezeAfter, ht]

theorem squeezeAfter_symbol {t : Token} (ht : t.isBoundary = false) (tokens : List Token) :
    squeezeAfter none (t :: tokens) = squeeze (t :: tokens) := by
  rw [squeeze_symbol ht]
  simp [squeezeAfter, ht]

theorem squeezeAfter_some (b : Token) (tokens : List Token) :
    squeezeAfter (some b) tokens =
      if (squeeze tokens).isEmpty then [] else b :: squeeze tokens := by
  induction tokens with
  | nil => rfl
  | cons t rest ih =>
    cases ht : t.isBoundary with
    | true =>
      rw [squeeze_boundary ht, ← ih]
      simp [squeezeAfter, ht]
    | false =>
      rw [squeeze_symbol ht]
      simp [squeezeAfter, ht]

theorem squeeze_copyTokens (position : Int) (n : Nat) (more : List Token) :
    squeeze (Tile.copyTokens boundary position n ++ more) = squeeze more := by
  induction n generalizing position with
  | zero => rfl
  | succ n ih =>
    rw [Tile.copyTokens, List.cons_append, squeeze_boundary rfl]
    exact ih _

theorem isEmpty_tokens (position : Int) (tiles : List Tile) :
    (Tile.tokens boundary position tiles).isEmpty = tiles.isEmpty := by
  cases tiles <;> rfl

theorem squeeze_allTokens (position : Int) (tiles : List Tile) :
    squeeze (Tile.allTokens boundary position tiles) = Tile.tokens boundary position tiles := by
  induction tiles generalizing position with
  | nil => rfl
  | cons t tiles ih =>
    rw [Tile.allTokens, Tile.tokens, squeeze_symbol rfl]
    apply congrArg (_ :: ·)
    cases hn : t.boundaries with
    | zero =>
      rw [← ih]
      cases tiles with
      | nil => rfl
      | cons next tiles =>
        exact squeezeAfter_symbol rfl _
    | succ n =>
      rw [Tile.copyTokens, List.cons_append]
      show squeezeAfter (some _) _ = _
      rw [squeezeAfter_some, squeeze_copyTokens, ih, isEmpty_tokens]
      cases tiles <;> simp [Tile.gap, Tile.tokens]

end Squeezing

section Layout

theorem munches_copies (hb : boundary ≠ []) (n : Nat)
    (h : Munches boundary alphabet rest (position + (copies boundary n).length) later tokens) :
    Munches boundary alphabet rest position (copies boundary n ++ later)
      (Tile.copyTokens boundary position n ++ tokens) := by
  induction n generalizing position with
  | zero => simpa [Tile.copyTokens] using h
  | succ n ih =>
    rw [copies_succ, List.append_assoc]
    refine .take (.boundary ⟨hb, ?_⟩) (ih ?_)
    · simp
    · rw [copies_succ, List.length_append, Int.natCast_add, ← Int.add_assoc] at h
      exact h

theorem Laid.munches (hb : boundary ≠ []) (h : Laid boundary alphabet rest consumed tiles)
    (position : Int) :
    Munches boundary alphabet rest position consumed
      (Tile.allTokens boundary position tiles) := by
  induction h generalizing position with
  | done => exact .done
  | tile hn hs _ ih =>
    refine .take (.symbol ?_ hs) (munches_copies hb _ (ih _))
    exact fun hbounded => hn hbounded.2

/-- What a scan takes is laid out in tiles, behind copies of the boundary. -/
theorem Munches.laid (hb : boundary ≠ [])
    (h : Munches boundary alphabet rest position consumed tokens) :
    ∃ n later tiles, consumed = copies boundary n ++ later ∧
      Laid boundary alphabet rest later tiles ∧
      tokens = Tile.copyTokens boundary position n ++
        Tile.allTokens boundary (position + (copies boundary n).length) tiles := by
  induction h with
  | done => exact ⟨0, [], [], rfl, .done, rfl⟩
  | @take s consumed isBoundary position tokens ht _ ih =>
    obtain ⟨n, later, tiles, rfl, hlaid, rfl⟩ := ih
    cases ht with
    | boundary =>
      refine ⟨n + 1, later, tiles, ?_, hlaid, ?_⟩
      · rw [copies_succ, List.append_assoc]
      · rw [copies_succ, List.length_append, Int.natCast_add, ← Int.add_assoc]
        rfl
    | symbol hnb hs =>
      have hn : ¬ boundary <+: s ++ (copies boundary n ++ later) ++ rest := fun h => hnb ⟨hb, h⟩
      refine ⟨0, _, ⟨s, n⟩ :: tiles, rfl, .tile hn hs hlaid, ?_⟩
      simp [Tile.copyTokens, Tile.allTokens]

end Layout

section Places

theorem mem_gap {n : Nat} (h : t ∈ Tile.gap boundary position n tiles) :
    n ≠ 0 ∧ t = ⟨String.ofList boundary, true, position⟩ := by
  unfold Tile.gap at h
  split at h
  · cases h
  · next hn =>
    rw [not_or] at hn
    exact ⟨hn.1, List.mem_singleton.1 h⟩

theorem length_le_copies (h : n ≠ 0) (boundary : List Char) :
    boundary.length ≤ (copies boundary n).length := by
  rw [copies_length]
  exact Nat.le_mul_of_pos_left _ (Nat.pos_of_ne_zero h)

theorem Laid.munched (h : Laid boundary alphabet rest consumed tiles) (position : Int) :
    ∀ t ∈ Tile.tokens boundary position tiles, t.isBoundary = false →
      ∃ before after, consumed = before ++ (t.text.toList ++ after) ∧
        t.position = position + before.length ∧
        ¬ boundary <+: t.text.toList ++ (after ++ rest) ∧
        Longest alphabet (t.text.toList ++ (after ++ rest)) t.text.toList := by
  induction h generalizing position with
  | done => simp [Tile.tokens]
  | @tile s n consumed tiles hn hs _ ih =>
    intro t ht hsymbol
    rw [Tile.tokens] at ht
    rcases List.mem_cons.1 ht with rfl | ht
    · refine ⟨[], copies boundary n ++ consumed, ?_⟩
      rw [List.append_assoc] at hn hs
      simpa using And.intro hn hs
    · rcases List.mem_append.1 ht with ht | ht
      · rw [(mem_gap ht).2] at hsymbol
        cases hsymbol
      · obtain ⟨before, after, rfl, hp, hlongest⟩ := ih _ t ht hsymbol
        refine ⟨s ++ (copies boundary n ++ before), after, ?_, ?_, hlongest⟩
        · simp
        · simp only [hp, List.length_append]
          omega

theorem le_position_of_mem (h : t ∈ Tile.tokens boundary position tiles) :
    position ≤ t.position := by
  induction tiles generalizing position with
  | nil => cases h
  | cons tile tiles ih =>
    rw [Tile.tokens] at h
    rcases List.mem_cons.1 h with rfl | h
    · simp
    · rcases List.mem_append.1 h with h | h
      · rw [(mem_gap h).2]
        dsimp only
        omega
      · have hle := ih h
        omega

theorem pairwise_tokens (boundary : List Char) (position : Int) (tiles : List Tile) :
    (Tile.tokens boundary position tiles).Pairwise fun t u => t.stop ≤ u.position := by
  induction tiles generalizing position with
  | nil => exact List.Pairwise.nil
  | cons tile tiles ih =>
    rw [Tile.tokens]
    refine List.pairwise_cons.2 ⟨fun u hu => ?_, List.pairwise_append.2 ⟨?_, ih _, ?_⟩⟩
    · rw [Token.stop, String.length_ofList]
      rcases List.mem_append.1 hu with hu | hu
      · exact (mem_gap hu).2 ▸ Int.le_refl _
      · have hle := le_position_of_mem hu
        dsimp only
        omega
    · unfold Tile.gap
      split <;> simp
    · intro t ht u hu
      obtain ⟨hn, rfl⟩ := mem_gap ht
      have hle := le_position_of_mem hu
      have hcopies := length_le_copies hn boundary
      rw [Token.stop, String.length_ofList]
      dsimp only
      omega

end Places

section Texts

variable {offset : Int} {tokens : List Token}

theorem Tiled.of_laid {boundary : String} {alphabet : List String} {text : String}
    (htext : text.toList = copies boundary.toList n ++ later)
    (h : Laid boundary.toList (alphabet.map String.toList) [] later tiles) (offset : Int) :
    Tiled boundary alphabet offset text
      (Tile.tokens boundary.toList (offset + (copies boundary.toList n).length) tiles) where
  munched t ht hsymbol := by
    obtain ⟨before, after, rfl, hp, hb, hlongest⟩ := h.munched _ t ht hsymbol
    rw [List.append_nil] at hb hlongest
    refine ⟨?_, ?_, copies boundary.toList n ++ before, after, ?_, ?_, hb, ?_⟩
    · obtain ⟨s, hs, he⟩ := List.mem_map.1 hlongest.mem
      rwa [← String.toList_inj.1 he]
    · intro he
      exact hlongest.ne_nil (by simp [he])
    · rw [htext, List.append_assoc]
    · rw [hp, List.length_append]
      omega
    · intro s hs hbegins
      have hle := hlongest.length_le s.toList (List.mem_map_of_mem hs) hbegins
      rwa [String.length_toList, String.length_toList] at hle
  apart := pairwise_tokens _ _ _
  laid := ⟨n, later, tiles, htext, h, rfl⟩

theorem stuck_iff {boundary : String} {alphabet : List String} (hb : boundary.toList ≠ []) :
    Stuck boundary.toList (alphabet.map String.toList) rest ↔
      ¬ boundary.toList <+: rest ∧ ∀ s ∈ alphabet, s ≠ "" → ¬ s.toList <+: rest := by
  constructor
  · rintro ⟨hnb, hnil⟩
    refine ⟨fun h => hnb ⟨hb, h⟩, fun s hs hne h => ?_⟩
    exact hne (String.toList_eq_nil_iff.1 (hnil _ (List.mem_map_of_mem hs) h))
  · rintro ⟨hnb, hs⟩
    refine ⟨fun h => hnb h.2, List.forall_mem_map.2 fun s hmem h => ?_⟩
    by_contra hne
    exact hs s hmem (by rwa [ne_eq, ← String.toList_eq_nil_iff]) h

theorem scan_tiles (hb : boundary ≠ []) (h : Laid boundary alphabet rest later tiles) (n : Nat)
    (position : Int) :
    Munches boundary alphabet rest position (copies boundary n ++ later)
      (Tile.copyTokens boundary position n ++
        Tile.allTokens boundary (position + (copies boundary n).length) tiles) :=
  munches_copies hb n (h.munches hb _)

theorem tokenize_eq_ok {boundary : String} {alphabet : List String} {text : String}
    (hb : boundary.toList ≠ []) :
    tokenize boundary alphabet offset text = .ok tokens ↔ Tiled boundary alphabet offset text tokens := by
  unfold tokenize
  rw [Work.map_eq_ok]
  constructor
  · rintro ⟨scanned, hscan, rfl⟩
    obtain ⟨n, later, tiles, htext, hlaid, rfl⟩ := (munches_of_scan hscan).laid hb
    rw [squeeze_copyTokens, squeeze_allTokens]
    exact Tiled.of_laid htext hlaid offset
  · rintro ⟨_, _, n, later, tiles, htext, hlaid, rfl⟩
    have hscan := (scan_tiles hb hlaid n offset).scan_eq
    refine ⟨_, htext ▸ hscan, ?_⟩
    rw [squeeze_copyTokens, squeeze_allTokens]

theorem tokenize_eq_error {boundary : String} {alphabet : List String} {text : String}
    (hb : boundary.toList ≠ []) :
    tokenize boundary alphabet offset text = .error e ↔
      ∃ consumed c rest, text.toList = consumed ++ c :: rest ∧
        Comes boundary.toList (alphabet.map String.toList) consumed (c :: rest) ∧
        Stuck boundary.toList (alphabet.map String.toList) (c :: rest) ∧
        e = ⟨.unknown "character" (.text (String.singleton c)), none,
          some (offset + consumed.length)⟩ := by
  have hscan : tokenize boundary alphabet offset text = .error e ↔
      scan boundary.toList (alphabet.map String.toList) offset text.toList = .error e := by
    unfold tokenize
    cases scan boundary.toList (alphabet.map String.toList) offset text.toList <;> simp [Except.map]
  rw [hscan]
  constructor
  · intro h
    obtain ⟨consumed, c, rest, tokens, htext, hm, hstuck, he⟩ := exists_munches_of_scan h
    obtain ⟨n, later, tiles, hconsumed, hlaid, _⟩ := hm.laid hb
    exact ⟨consumed, c, rest, htext, ⟨n, later, tiles, hconsumed, hlaid⟩, hstuck, he⟩
  · rintro ⟨_, c, rest, htext, ⟨n, later, tiles, rfl, hlaid⟩, hstuck, rfl⟩
    rw [htext]
    exact (scan_tiles hb hlaid n offset).scan_eq_error hstuck

/-- Cutting a text into tokens is maximal munch. The tokens are those of a text that is tiled, where
each symbol is the longest at its place and boundaries lie between; and a text that cannot be cut
fails at the first place the scan comes to where neither a boundary nor a symbol begins. -/
theorem tokenize_tiled (boundary : String) (hb : boundary ≠ "") (alphabet : List String)
    (offset : Int) (text : String) :
    (∀ tokens, tokenize boundary alphabet offset text = .ok tokens ↔
      Tiled boundary alphabet offset text tokens) ∧
    ∀ e, tokenize boundary alphabet offset text = .error e ↔
      ∃ consumed c rest, text.toList = consumed ++ c :: rest ∧
        Comes boundary.toList (alphabet.map String.toList) consumed (c :: rest) ∧
        ¬ boundary.toList <+: c :: rest ∧
        (∀ s ∈ alphabet, s ≠ "" → ¬ s.toList <+: c :: rest) ∧
        e = ⟨.unknown "character" (.text (String.singleton c)), none,
          some (offset + consumed.length)⟩ := by
  have hne : boundary.toList ≠ [] := by rwa [ne_eq, String.toList_eq_nil_iff]
  refine ⟨fun tokens => tokenize_eq_ok hne, fun e => ?_⟩
  rw [tokenize_eq_error hne]
  simp only [stuck_iff hne, and_assoc]

/-- The boundary is doubled, begins and ends the text, and shares a character with a symbol. -/
theorem tokenize_tiled_slashes :
    "//" ≠ "" ∧
      tokenize "//" ["", "t", "/t", "ti", "i"] 5 "//ti////t/ti//" =
        .ok [⟨"ti", false, 7⟩, ⟨"//", true, 9⟩, ⟨"t", false, 13⟩, ⟨"/t", false, 14⟩,
          ⟨"i", false, 16⟩] ∧
      Tiled "//" ["", "t", "/t", "ti", "i"] 5 "//ti////t/ti//"
        [⟨"ti", false, 7⟩, ⟨"//", true, 9⟩, ⟨"t", false, 13⟩, ⟨"/t", false, 14⟩,
          ⟨"i", false, 16⟩] ∧
      tokenize "//" ["", "t", "/t", "ti", "i"] 5 "ti/i" =
        .error ⟨.unknown "character" (.text "/"), none, some 7⟩ := by
  have hb : "//" ≠ "" := by decide
  have hok : tokenize "//" ["", "t", "/t", "ti", "i"] 5 "//ti////t/ti//" =
      .ok [⟨"ti", false, 7⟩, ⟨"//", true, 9⟩, ⟨"t", false, 13⟩, ⟨"/t", false, 14⟩,
        ⟨"i", false, 16⟩] := by with_unfolding_all rfl
  refine ⟨hb, hok, ((tokenize_tiled "//" hb _ 5 _).1 _).1 hok, ?_⟩
  with_unfolding_all rfl

end Texts

end Silbo
