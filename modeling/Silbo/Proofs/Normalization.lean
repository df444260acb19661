import Silbo.Text.Normalized

/-!
Normal spelling. A boundary without a backslash stands for itself where it serves as a template,
and with such a boundary every text has a normal spelling.
-/
namespace Silbo.Text

theorem templateUnits_plain {template : List Char} (h : '\\' ∉ template) :
    templateUnits template = template.map .plain := by
  induction template with
  | nil => rfl
  | cons c rest ih =>
    rw [List.mem_cons, not_or] at h
    have hc : c ≠ '\\' := Ne.symm h.1
    rw [List.map_cons, ← ih h.2]
    cases rest <;> simp [templateUnits, hc]

theorem parts_plain (text : List Char) (position fuel : Nat) (h : text.length < fuel) :
    (TemplateRest.mk (text.map .plain) position).parts fuel =
      .ok (text.map fun c => .literal [c]) := by
  induction text generalizing position fuel with
  | nil =>
    match fuel with
    | fuel + 1 => rfl
  | cons c rest ih =>
    match fuel with
    | fuel + 1 =>
      have hnext : (TemplateRest.mk ((c :: rest).map .plain) position).next? =
          .ok (some (.plain c, ⟨rest.map .plain, position + 1⟩)) := by
        cases rest <;> rfl
      unfold TemplateRest.parts
      rw [hnext]
      have hfuel : rest.length < fuel := Nat.lt_of_succ_lt_succ h
      show ((TemplateRest.mk (rest.map .plain) (position + 1)).parts fuel >>= fun later =>
        pure (.literal [c] :: later)) = _
      rw [ih (position + 1) fuel hfuel]
      rfl

theorem readTemplate_plain {template : List Char} (h : '\\' ∉ template) :
    ∃ parts, readTemplate template = .ok parts ∧ ∀ found, fill parts found = template := by
  refine ⟨template.map fun c => .literal [c], ?_, fun found => ?_⟩
  · unfold readTemplate
    rw [templateUnits_plain h]
    simp only
    rw [parts_plain _ _ _ (by rw [List.length_map]; exact Nat.lt_succ_self _)]
  · unfold fill
    rw [List.flatMap_map, List.flatMap_singleton']

theorem normalize_ok {boundary : String} (h : '\\' ∉ boundary.toList) (text : String) :
    ∃ normal, normalize boundary text = .ok normal := by
  obtain ⟨parts, hp, _⟩ := readTemplate_plain h
  unfold normalize normalizeChars
  rw [hp]
  exact ⟨_, rfl⟩

end Silbo.Text
