import Stencil.Command.Run

/-!
# Rules for the steps of commands

Steps of a command go on from what was done before, and end with a result or with a failure; in both
cases something may have been done. `Attempt.Meets` tells for one run what it ends with, good or
bad, and `meets_bind` puts the steps together: whatever was done before a failure counts for the
whole.

Most steps only look (`Attempt.Looks`). They read files and report, and however they end, no file
has changed and nothing has been printed.

## Key results

- `meets_bind`, `Meets.mono`: one step after another, and what follows from what.
- `looks_bind`: steps that only look, one after another.
- `readFile_looks`, `report_looks`: the steps that only look.
-/

namespace Stencil.Command

/-- From one to the other no file has changed, and nothing was printed. -/
structure Progress.Same (p q : Progress) : Prop where
  folder : q.folder = p.folder
  output : q.output = p.output

namespace Progress.Same

theorem refl (p : Progress) : p.Same p := ⟨rfl, rfl⟩

theorem trans {p q r : Progress} (h : p.Same q) (h' : q.Same r) : p.Same r :=
  ⟨h'.folder.trans h.folder, h'.output.trans h.output⟩

end Progress.Same

namespace Attempt

variable {α β : Type} {p : Progress}

/-! ## What a run ends with -/

/-- Run from `p`, the steps end well with what is `good`, or fail with what is `bad`. -/
def Meets (m : Attempt α) (p : Progress) (good : α → Progress → Prop)
    (bad : Failure → Progress → Prop) : Prop :=
  match m.run p with
  | .ok a q => good a q
  | .error e q => bad e q

section Meets

variable {good between : α → Progress → Prop} {bad : Failure → Progress → Prop}

theorem meets_pure {a : α} (h : good a p) : Meets (pure a) p good bad := h

theorem meets_throw {e : Failure} (h : bad e p) : Meets (throw e : Attempt α) p good bad := h

/-- What ends in one way ends in any way that follows from it. -/
theorem Meets.mono {m : Attempt α} {good' : α → Progress → Prop} {bad' : Failure → Progress → Prop}
    (h : m.Meets p good bad) (hgood : ∀ a q, good a q → good' a q)
    (hbad : ∀ e q, bad e q → bad' e q) : m.Meets p good' bad' := by
  unfold Meets at h ⊢
  split at h
  · exact hgood _ _ h
  · exact hbad _ _ h

/-- The second steps go on from what the first ones gave and did. -/
theorem meets_bind {m : Attempt α} {f : α → Attempt β} {good : β → Progress → Prop}
    (hm : m.Meets p between bad) (hf : ∀ a q, between a q → (f a).Meets q good bad) :
    (m >>= f).Meets p good bad := by
  unfold Meets at hm ⊢
  rw [EStateM.run_bind]
  cases hresult : m.run p with
  | ok a q =>
    rw [hresult] at hm
    exact hf a q hm
  | error e q =>
    rw [hresult] at hm
    exact hm

/-- Steps that are told what was done so far. -/
theorem meets_get_bind {f : Progress → Attempt α} (h : (f p).Meets p good bad) :
    (get >>= f).Meets p good bad := h

/-- Steps after a step that does what makes `q` of it. -/
theorem meets_set_bind {q : Progress} {f : PUnit → Attempt α} (h : (f ⟨⟩).Meets q good bad) :
    (set q >>= f).Meets p good bad := h

end Meets

/-! ## Steps that only look -/

/-- Among the files of `folder`, the steps give a result of the kind or fail. However they end, no
file has changed and nothing was printed. -/
def Looks (m : Attempt α) (folder : Folder) (kind : α → Prop) : Prop :=
  ∀ p : Progress, p.folder = folder →
    m.Meets p (fun a q => kind a ∧ p.Same q) (fun _ q => p.Same q)

section Looks

variable {folder : Folder} {kind : α → Prop} {other : β → Prop}

theorem looks_pure (a : α) (h : kind a) : Looks (pure a) folder kind :=
  fun p _ => meets_pure ⟨h, .refl p⟩

theorem looks_throw (failure : Failure) : Looks (throw failure : Attempt α) folder kind :=
  fun p _ => meets_throw (.refl p)

theorem looks_refuse (reason : Refusal) : Looks (refuse reason : Attempt α) folder kind :=
  looks_throw _

theorem Looks.mono {m : Attempt α} {kind' : α → Prop} (h : Looks m folder kind)
    (hkind : ∀ a, kind a → kind' a) : Looks m folder kind' := fun p hp =>
  (h p hp).mono (fun a _ ⟨ha, hq⟩ => ⟨hkind a ha, hq⟩) fun _ _ hq => hq

/-- Of steps that only look, the second ones go on from what the first ones give. -/
theorem looks_bind {m : Attempt α} {f : α → Attempt β} (hm : Looks m folder kind)
    (hf : ∀ a, kind a → Looks (f a) folder other) : Looks (m >>= f) folder other := by
  intro p hp
  refine meets_bind (hm p hp) fun a q ⟨ha, hpq⟩ => ?_
  exact (hf a ha q (hpq.folder.trans hp)).mono (fun b r ⟨hb, hqr⟩ => ⟨hb, hpq.trans hqr⟩)
    fun e r hqr => hpq.trans hqr

theorem report_looks (notes : List Note) : Looks (report notes) folder fun _ => True :=
  fun _ _ => ⟨trivial, rfl, rfl⟩

/-- Reports before other steps change nothing for them. -/
theorem looks_report_bind {notes : List Note} {f : Unit → Attempt β}
    (hf : Looks (f ()) folder other) : Looks (report notes >>= f) folder other :=
  looks_bind (report_looks notes) fun _ _ => hf

theorem ofOverlong_looks (result : Except Overlong α) :
    Looks (ofOverlong result) folder (result = .ok ·) := by
  cases result with
  | ok a => exact looks_pure a rfl
  | error e => exact looks_throw _

theorem get_looks : Looks get folder fun p => p.folder = folder :=
  fun p hp => ⟨hp, .refl p⟩

/-- Reading a file gives what the folder has for it. -/
theorem readFile_looks (name : FileName) :
    Looks (readFile name) folder fun found => folder.read name = .ok found := by
  refine looks_bind get_looks fun p hp => ?_
  rw [hp]
  cases folder.read name with
  | ok found => exact looks_pure found rfl
  | error e => exact looks_throw _

end Looks

end Attempt

end Stencil.Command
