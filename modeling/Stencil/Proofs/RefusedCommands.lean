import Stencil.Proofs.RenderDelivery

/-!
# Refused commands

A command that is refused changes nothing and prints nothing. A step that fails takes nothing back
of what was done before it, so this rests on the order of the steps (`Attempt.IsOrderly`). Those
that may refuse the command only look, and all of them come before the first one that writes or
prints; from then on a command can break off, on a file that cannot be reached, but is not refused
any more. The exit code tells: two stands for a refusal and for nothing else. A command that only
prints changes no file however it ends.

## Key results

- `isOrderly_bind`: steps that only look, before steps in order.
- `perform_isOrderly`: the steps of every command are in order.
- `run_changes_nothing`: the files and the output after a refusal, and after commands that print.
-/

namespace Stencil.Command

open Attempt

/-- Whether a command may write a file. The others print. -/
def Action.mayWrite : Action → Bool
  | .render _ _ => true
  | .scaffold _ inPlace => inPlace
  | .inspect _ | .check _ _ => false

/-! ## Steps in order -/

/-- The steps end with zero or one, or fail; if they fail with a refusal, nothing was printed and no
file has changed; and steps that are not to write change no file, however they end. -/
def Attempt.IsOrderly (m : Attempt Nat) (mayWrite : Bool) : Prop :=
  ∀ p, m.Meets p (fun code q => code < 2 ∧ (mayWrite = false → q.folder = p.folder))
    fun e q => (e.IsRefusal → p.Same q) ∧ (mayWrite = false → q.folder = p.folder)

section Orderly

variable {α : Type} {mayWrite : Bool}

/-- Steps that only look may come before. -/
theorem isOrderly_bind {m : Attempt α} {f : α → Attempt Nat} {kind : Folder → α → Prop}
    (hm : ∀ folder, Looks m folder (kind folder)) (hf : ∀ a, IsOrderly (f a) mayWrite) :
    IsOrderly (m >>= f) mayWrite := by
  intro p
  refine meets_bind ((hm p.folder p rfl).mono (fun _ _ h => h.2)
    fun _ q hq => ⟨fun _ => hq, fun _ => hq.folder⟩) fun a q hq => ?_
  refine (hf a q).mono (fun code r ⟨hcode, hr⟩ => ⟨hcode, fun h => (hr h).trans hq.folder⟩) ?_
  exact fun e r ⟨hrefusal, hr⟩ => ⟨fun h => hq.trans (hrefusal h), fun h => (hr h).trans hq.folder⟩

theorem isOrderly_refuse (reason : Refusal) : IsOrderly (refuse reason) mayWrite :=
  fun p => ⟨fun _ => .refl p, fun _ => rfl⟩

/-- After a step that does not write and refuses nothing, a command may end. -/
theorem isOrderly_last {m : Attempt α} {code : Nat} (hcode : code < 2)
    (hm : ∀ p, m.Meets p (fun _ q => mayWrite = false → q.folder = p.folder)
      fun e q => ¬ e.IsRefusal ∧ (mayWrite = false → q.folder = p.folder)) :
    IsOrderly (do let _ ← m; return code) mayWrite := fun p =>
  meets_bind ((hm p).mono (fun _ _ h => h) fun _ _ ⟨hne, h⟩ => ⟨fun h' => absurd h' hne, h⟩)
    fun _ _ h => ⟨hcode, h⟩

end Orderly

/-! ## Commands -/

theorem inspect_isOrderly (input template : String) :
    IsOrderly (inspect input template) false := by
  refine isOrderly_bind (fun _ => readTemplate_looks input template) fun source => ?_
  refine isOrderly_bind (fun _ => parseTemplate_looks false source) fun t => ?_
  exact isOrderly_last (by decide) fun p => fun _ => rfl

theorem scaffold_isOrderly (input template : String) (inPlace : Bool) :
    IsOrderly (scaffold input template inPlace) inPlace := by
  refine isOrderly_bind (fun _ => readTemplate_looks input template) fun source => ?_
  refine isOrderly_bind (fun _ => report_looks _) fun _ => ?_
  cases inPlace with
  | false => exact isOrderly_last (by decide) fun p => fun _ => rfl
  | true =>
    dsimp only
    rw [if_pos rfl]
    split
    · exact isOrderly_refuse _
    · split
      · exact fun p => ⟨by decide, nofun⟩
      · exact isOrderly_last (by decide) fun p =>
          (writeFile_meets p _ _).mono (fun _ _ _ => nofun) fun _ _ hne => ⟨hne, nofun⟩

theorem printLines_meets (lines : List String) (p : Progress) :
    (printLines lines).Meets p (fun _ q => q.folder = p.folder) fun _ _ => False := by
  induction lines generalizing p with
  | nil => rfl
  | cons line rest ih => exact ih _

theorem check_isOrderly (input template : String) (strict : Bool) :
    IsOrderly (check input template strict) false := by
  refine isOrderly_bind (fun _ => readTemplate_looks input template) fun source => ?_
  refine isOrderly_bind (fun _ => parseTemplate_looks strict source) fun t => ?_
  refine isOrderly_bind (fun _ => ofOverlong_looks _) fun lines => ?_
  refine isOrderly_last (by split <;> decide) fun p => ?_
  exact (printLines_meets lines p).mono (fun _ _ h _ => h) fun _ _ h => h.elim

/-- The steps of every command are in order. -/
theorem perform_isOrderly (formats : Formats) (input : String) (r : Request) :
    IsOrderly (perform formats input r) r.action.mayWrite := by
  unfold perform
  cases r.action with
  | inspect template => exact inspect_isOrderly input template
  | render template o =>
    intro p
    refine (render_meets formats input r.config template o p).mono ?_ ?_
    · rintro code q ⟨rfl, -⟩
      exact ⟨by decide, nofun⟩
    · exact fun e q h => ⟨h, nofun⟩
  | scaffold template inPlace => exact scaffold_isOrderly input template inPlace
  | check template strict => exact check_isOrderly input template strict

/-- A refused command changes nothing. The exit code is two exactly if a step of the command refuses
it, whatever the command and the reason, and whatever the libraries say of documents and settings;
then the files are as before, and nothing was printed. However they end, commands that inspect or
check a template change no file, and neither does scaffolding that is not done in place. -/
theorem run_changes_nothing (formats : Formats) (s : Surroundings) (r : Request) :
    ((run formats s r).exitCode = 2 ↔ ∃ reason p,
      (perform formats s.input r).run ⟨s.folder, "", []⟩ = .error (.refused reason) p) ∧
    ((run formats s r).exitCode = 2 →
      (run formats s r).folder = s.folder ∧ (run formats s r).output = "") ∧
    (r.action.mayWrite = false → (run formats s r).folder = s.folder) := by
  have horderly := perform_isOrderly formats s.input r ⟨s.folder, "", []⟩
  unfold Meets at horderly
  unfold run
  cases hresult : (perform formats s.input r).run ⟨s.folder, "", []⟩ with
  | ok code p =>
    rw [hresult] at horderly
    obtain ⟨hcode, hfolder⟩ := horderly
    have hne : code ≠ 2 := Nat.ne_of_lt hcode
    exact ⟨⟨fun h => absurd h hne, nofun⟩, fun h => absurd h hne, hfolder⟩
  | error failure p =>
    rw [hresult] at horderly
    obtain ⟨hrefusal, hfolder⟩ := horderly
    cases failure with
    | refused reason =>
      obtain ⟨hsame, houtput⟩ := hrefusal ⟨reason, rfl⟩
      exact ⟨⟨fun _ => ⟨reason, p, rfl⟩, fun _ => rfl⟩, fun _ => ⟨hsame, houtput⟩, hfolder⟩
    | _ =>
      have hne : 1 ≠ 2 := by decide
      exact ⟨⟨fun h => absurd h hne, nofun⟩, fun h => absurd h hne, hfolder⟩

/-- An assignment without an equals sign, in a command that would write a file, and a check that
prints a problem. -/
theorem run_changes_nothing_no_equals_sign :
    let s : Surroundings := ⟨⟨⟨"/", []⟩, [(["t"], .text "\x7b%if%\x7d")], []⟩, "", false⟩
    let refused : Request :=
      ⟨false, none, .render "t" ⟨none, [some "n"], false, false, false, some "o", none⟩⟩
    let check : Request := ⟨false, none, .check "t" false⟩
    ((run twoDocuments s refused).exitCode = 2 ∧ (run twoDocuments s refused).folder = s.folder ∧
      (run twoDocuments s refused).output = "") ∧
    check.action.mayWrite = false ∧ (run twoDocuments s check).folder = s.folder := by
  intro s refused check
  have hexit : (run twoDocuments s refused).exitCode = 2 := by decide +kernel
  have hrefused := run_changes_nothing twoDocuments s refused
  exact ⟨⟨hexit, hrefused.2.1 hexit⟩, rfl, (run_changes_nothing twoDocuments s check).2.2 rfl⟩

end Stencil.Command
