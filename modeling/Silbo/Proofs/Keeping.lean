import Silbo.Command
import Silbo.Proofs.Workspace

/-!
What a task comes to, whatever the system is that it asks. The work between two requests ends as it
does by itself; a refusal ends the task, with the workspace as it was. A disk that grants all requests
has the file in the end, and is otherwise as it was.
-/
namespace Silbo
open Work

variable {n : Type → Type} [Monad n]

namespace Task

variable [LawfulMonad n]

theorem run_ofWork_bind (work : Work Fault α) (f : α → Task n β) (w : Workspace) :
    (ofWork work >>= f).run.run w = match work.outcome w with
      | .ok a => (f a).run.run (work.final w)
      | .error e => pure (.error e, work.final w) := by
  have hwork : (ofWork (n := n) work).run.run w = pure (work.outcome w, work.final w) := rfl
  rw [ExceptT.run_bind, StateT.run_bind, hwork, pure_bind]
  cases work.outcome w <;> rfl

theorem run_ask_bind (request : ExceptT Refusal n α) (f : α → Task n β) (w : Workspace) :
    (ask request >>= f).run.run w = request.run >>= fun
      | .ok a => (f a).run.run w
      | .error refusal => pure (.error (.refused refusal), w) := by
  have hask : (ask request).run.run w = request.run >>= fun answer =>
      pure (answer.mapError Fault.refused, w) := rfl
  rw [ExceptT.run_bind, StateT.run_bind, hask, bind_assoc]
  congr 1
  funext answer
  rw [pure_bind]
  cases answer <;> rfl

theorem run_throw_bind (f : Fault) (g : α → Task n β) (w : Workspace) :
    (throw f >>= g).run.run w = pure (.error f, w) := by
  have hthrow : (throw f : Task n α).run.run w = pure (.error f, w) := rfl
  rw [ExceptT.run_bind, StateT.run_bind, hthrow, pure_bind]
  rfl

end Task

namespace Command

variable {t : Storage n} {schedule : Schedule} {folder : String} {arguments : List String}
variable {o o' : CommandLine.Options} {draft : Draft} {wave : Wave} {f : Fault}

theorem execute_eq (ho : CommandLine.parse arguments = .ok o) :
    execute t schedule folder arguments = (render t schedule folder o).run.run {} >>= fun x =>
      pure (conclude o.verbosity x.2.journal x.1) := by
  unfold execute
  rw [ho]

def notes (schedule : Schedule) (o : CommandLine.Options) : List Event :=
  ((prepare schedule o).final {}).journal

variable [LawfulMonad n]

theorem render_congr (hdraft : (prepare schedule o).outcome {} = (prepare schedule o').outcome {})
    (hfinal : (prepare schedule o).final {} = (prepare schedule o').final {}) :
    (render t schedule folder o).run.run {} = (render t schedule folder o').run.run {} := by
  unfold render
  rw [Task.run_ofWork_bind, Task.run_ofWork_bind, hdraft, hfinal]

theorem execute_of_error (ho : CommandLine.parse arguments = .ok o)
    (h : (prepare schedule o).outcome {} = .error f) :
    execute t schedule folder arguments =
      pure (conclude o.verbosity (notes schedule o) (.error f)) := by
  rw [execute_eq ho, render, Task.run_ofWork_bind, h]
  exact pure_bind _ _

theorem execute_of_draft (ho : CommandLine.parse arguments = .ok o)
    (h : (prepare schedule o).outcome {} = .ok draft) :
    execute t schedule folder arguments =
      (saveWave t draft.rate folder draft.path draft.samples >>= fun output => do
        Task.ofWork (Work.report (.finished output.path))
        pure output).run.run ((prepare schedule o).final {}) >>= fun x =>
          pure (conclude o.verbosity x.2.journal x.1) := by
  rw [execute_eq ho, render, Task.run_ofWork_bind, h]

/-- The system is asked once for all of the file, and what is noted after that is that it is there. -/
theorem execute_of_ok (ho : CommandLine.parse arguments = .ok o)
    (h : (prepare schedule o).outcome {} = .ok draft)
    (hwave : Wave.ofSamples draft.rate draft.samples = .ok wave) :
    execute t schedule folder arguments = (t.save folder draft.path wave.encode).run >>= fun
      | .ok _ => pure (.exit 0 (some ⟨Path.whole folder draft.path, wave⟩),
          shown (threshold o.verbosity) (.finished (Path.whole folder draft.path) ::
            .written wave.frames.length wave.rate draft.path :: notes schedule o))
      | .error refusal => pure (.fault (.refused refusal),
          shown (threshold o.verbosity) (notes schedule o)) := by
  rw [execute_of_draft ho h, saveWave, hwave]
  dsimp only
  rw [bind_assoc, Task.run_ask_bind, bind_assoc]
  congr 1
  funext answer
  cases answer with
  | error refusal => exact pure_bind _ _
  | ok _ =>
    dsimp only
    rw [Task.run_ofWork_bind]
    show StateT.run (ExceptT.run (Task.ofWork _ >>= _)) _ >>= _ = _
    rw [Task.run_ofWork_bind]
    exact pure_bind _ _

theorem execute_of_overflow (ho : CommandLine.parse arguments = .ok o)
    (h : (prepare schedule o).outcome {} = .ok draft)
    (hwave : Wave.ofSamples draft.rate draft.samples = .error .headerOverflow) :
    execute t schedule folder arguments =
      (t.save folder draft.path (Wave.begun .headerOverflow)).run >>= fun
      | .ok _ => pure (.fault .headerOverflow, shown (threshold o.verbosity) (notes schedule o))
      | .error refusal => pure (.fault (.refused refusal),
          shown (threshold o.verbosity) (notes schedule o)) := by
  rw [execute_of_draft ho h, saveWave, hwave]
  dsimp only
  rw [bind_assoc, Task.run_ask_bind, bind_assoc]
  congr 1
  funext answer
  cases answer with
  | error refusal => exact pure_bind _ _
  | ok _ =>
    dsimp only
    rw [Task.run_throw_bind]
    exact pure_bind _ _

end Command

namespace Disk

variable {d : Disk} {folder place names : List String} {name : String} {bytes : List UInt8}

theorem node?_put (d : Disk) (hne : place ≠ []) (x : Node) (other : List String) :
    (d.put place x).node? other = if other = place then some x else d.node? other := by
  unfold put node?
  by_cases h : other = place
  · rw [if_pos h, h, if_neg (by simpa using hne), List.lookup_cons_self]
  · have hbeq : (other == place) = false := beq_false_of_ne h
    rw [if_neg h, List.lookup_cons, hbeq]

theorem run_get_bind (f : Disk → Act α) (d : Disk) :
    (get >>= f).run.run d = (f d).run.run d := rfl

theorem run_bind_of_ok {x : Act α} {a : α} {d' : Disk} (h : x.run.run d = (.ok a, d'))
    (f : α → Act β) : (x >>= f).run.run d = (f a).run.run d' := by
  rw [ExceptT.run_bind, StateT.run_bind, h]
  rfl

/-- A path that is the name of something in the folder itself. -/
structure Plain (name : String) : Prop where
  namesOf_eq : namesOf name = ([name], false)
  nonempty : name.isEmpty = false
  relative : Path.beginsAtRoot name = false
  noNull : hasNull name = false

/-- The folders on the way are there. -/
structure Stands (d : Disk) (names : List String) : Prop where
  folders : ∀ i < names.length, d.node? (names.take (i + 1)) = some .folder
  noNull : ∀ name ∈ names, hasNull name = false

theorem run_makeFrom (front : List String) (h : Stands d (front ++ names)) :
    (makeFrom front names).run.run d = (.ok (), d) := by
  induction names generalizing front with
  | nil => rfl
  | cons name names ih =>
    have hname := h.noNull name (by simp)
    have hfolder := h.folders front.length (by simp)
    rw [List.take_append, List.take_of_length_le (by simp)] at hfolder
    have hfolder : d.node? (front ++ [name]) = some .folder := by simpa using hfolder
    unfold makeFrom
    rw [hname]
    show StateT.run (ExceptT.run (get >>= _)) d = _
    rw [run_get_bind, hfolder]
    exact ih (front ++ [name]) (by simpa using h)

theorem run_makeFolders {path : String}
    (h : Stands d ((Path.names path).filter (!·.isEmpty))) :
    ((storage folder).makeFolders path).run.run d = (.ok (), d) := run_makeFrom [] h

theorem run_locate (h : Plain name) (hd : d.node? (folder ++ [name]) ≠ some .folder) :
    (locate folder name).run.run d = (.ok (folder ++ [name]), d) := by
  have hfree : (d.node? (folder ++ [name]) == some .folder) = false := beq_false_of_ne hd
  unfold locate
  simp only [h.namesOf_eq, h.nonempty, h.relative, h.noNull]
  show StateT.run (ExceptT.run (if (d.node? (folder ++ [name]) == some .folder) = true
    then _ else _)) d = _
  rw [hfree]
  rfl

/-- What is saved under a plain name is in the file of that name, and nothing else has changed. -/
theorem run_save_plain (folder : List String) {text : String} (h : Plain name)
    (hd : d.node? (folder ++ [name]) ≠ some .folder)
    (hfolders : Stands d ((Path.names (Path.folderOf (Path.whole text name))).filter (!·.isEmpty)))
    (bytes : List UInt8) :
    ∃ d', ((storage folder).save text name bytes).run.run d = (.ok (), d') ∧
      d'.node? (folder ++ [name]) = some (.file bytes) ∧
      ∀ place, place ≠ folder ++ [name] → d'.node? place = d.node? place := by
  have hne : folder ++ [name] ≠ [] := by simp
  have hfirst := run_locate h hd
  have hmade : (d.put (folder ++ [name]) (.file [])).node? (folder ++ [name]) =
      some (.file []) := by rw [node?_put _ hne, if_pos rfl]
  have hsecond := run_locate (d := d.put (folder ++ [name]) (.file [])) h (by rw [hmade]; simp)
  refine ⟨(d.put (folder ++ [name]) (.file [])).put (folder ++ [name]) (.file bytes), ?_, ?_, ?_⟩
  · unfold Storage.save
    rw [run_bind_of_ok (run_makeFolders hfolders)]
    have hcreate : ((storage folder).create name).run.run d =
        (.ok (), d.put (folder ++ [name]) (.file [])) := run_bind_of_ok hfirst _
    rw [run_bind_of_ok hcreate]
    refine (run_bind_of_ok hsecond _).trans ?_
    show (Except.ok (), _) = _
    dsimp only
    rw [hmade]
    rfl
  · rw [node?_put _ hne, if_pos rfl]
  · intro place hplace
    rw [node?_put _ hne, node?_put _ hne, if_neg hplace, if_neg hplace]

end Disk

end Silbo
