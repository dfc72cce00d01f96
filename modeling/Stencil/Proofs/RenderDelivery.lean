import Stencil.Proofs.CommandSteps

/-!
# Where a rendered text goes

A rendering that succeeds delivers the text that the template gives with the data, and delivers it
once: to the output file, or to a file in the directory to save in, or to the standard output. The
text is the one that `Template.render` gives, although the command takes that apart: it reads the
template strictly or not, takes the default values out of it if they are switched off, and renders
what is left with its default values.

All of this holds whatever the documents and the settings are that the libraries read.

## Key results

- `writeFile_meets`, `makeDirectory_meets`: what the steps that write do.
- `deliver_meets`: what delivering a text does.
- `render_meets`: what rendering does, and what is done by one that is refused.
- `render_delivered_once`: the text of a rendering, and the one place where it is.
-/

namespace Stencil

/-! ## Files after a write -/

namespace Folder

theorem lookup_put_self (place : Location) (text : String) (files : List (Location × Content)) :
    (put place text files).lookup place = some (.text text) := by
  induction files with
  | nil => exact List.lookup_cons_self
  | cons file rest ih =>
    obtain ⟨other, old⟩ := file
    by_cases h : other = place
    · rw [put, if_pos h, h, List.lookup_cons_self]
    · rw [put, if_neg h, List.lookup_cons, beq_false_of_ne (Ne.symm h)]
      exact ih

theorem lookup_put_of_ne (place other : Location) (text : String)
    (files : List (Location × Content)) (h : other ≠ place) :
    (put place text files).lookup other = files.lookup other := by
  induction files with
  | nil => rw [put, List.lookup_cons, beq_false_of_ne h]
  | cons file rest ih =>
    obtain ⟨first, old⟩ := file
    by_cases hfirst : first = place
    · subst hfirst
      rw [put, if_pos rfl, List.lookup_cons, List.lookup_cons, beq_false_of_ne h]
    · rw [put, if_neg hfirst, List.lookup_cons, List.lookup_cons, ih]

/-- Making directories changes no file. -/
theorem files_makeDirectories (f : Folder) (places : List Location) :
    (f.makeDirectories places).1.files = f.files := by
  induction places generalizing f with
  | nil => rfl
  | cons place rest ih =>
    rw [makeDirectories]
    split
    · rfl
    · split
      · exact ih f
      · split
        · rfl
        · exact ih _

theorem files_makeDirectory (f : Folder) (name : FileName) :
    (f.makeDirectory name).1.files = f.files := by
  unfold makeDirectory
  split
  · exact files_makeDirectories f _
  · exact files_makeDirectories f _
  · rfl

theorem files_write (f after : Folder) (name : FileName) (text : String)
    (h : f.write name text = .ok after) : after.files = put name.place text f.files := by
  unfold write at h
  split at h
  · cases h
  · split at h
    · cases h
    · cases h
      rfl

end Folder

namespace Command

open Attempt

/-! ## Steps that write -/

/-- The command was refused; it did not break off. -/
def Failure.IsRefusal (e : Failure) : Prop := ∃ reason, e = .refused reason

/-- From one to the other, the text was written to the file, no other file has changed, and
`printed` was printed. -/
structure Progress.Wrote (p q : Progress) (name : FileName) (text printed : String) : Prop where
  holds : q.folder.files.lookup name.place = some (.text text)
  others : ∀ place, place ≠ name.place →
    q.folder.files.lookup place = p.folder.files.lookup place
  output : q.output = p.output ++ printed

/-- Writing a file writes it and changes no other, or breaks off. -/
theorem writeFile_meets (p : Progress) (name : FileName) (text : String) :
    (writeFile name text).Meets p (fun _ q => p.Wrote q name text "") fun e _ => ¬ e.IsRefusal := by
  refine meets_get_bind ?_
  cases hwrite : p.folder.write name text with
  | error e => exact fun ⟨_, h⟩ => nomatch h
  | ok after =>
    have hfiles := Folder.files_write p.folder after name text hwrite
    refine ⟨?_, fun place hplace => ?_, String.append_empty.symm⟩
    · show after.files.lookup name.place = _
      rw [hfiles]
      exact Folder.lookup_put_self _ _ _
    · show after.files.lookup place = _
      rw [hfiles]
      exact Folder.lookup_put_of_ne _ _ _ _ hplace

/-- Making a directory changes no file, or breaks off. -/
theorem makeDirectory_meets (p : Progress) (name : FileName) :
    (makeDirectory name).Meets p
      (fun _ q => q.folder.files = p.folder.files ∧ q.output = p.output)
      fun e _ => ¬ e.IsRefusal := by
  have hfiles := p.folder.files_makeDirectory name
  refine meets_get_bind ?_
  generalize p.folder.makeDirectory name = result at hfiles ⊢
  obtain ⟨made, problem⟩ := result
  refine meets_set_bind ?_
  cases problem with
  | none => exact ⟨hfiles, rfl⟩
  | some e => exact fun ⟨_, h⟩ => nomatch h

/-! ## Delivering -/

/-- From one to the other, the text was delivered to its destination and nowhere else. -/
def Destination.Received (d : Destination) (p q : Progress) (text : String) : Prop :=
  match d with
  | .file name => p.Wrote q name text ""
  | .directory parent name =>
    p.Wrote q (parent.join name) text ((parent.join name).toText ++ "\n")
  | .output => q.folder = p.folder ∧ q.output = p.output ++ text

theorem Destination.Received.of_same {d : Destination} {p q r : Progress} {text : String}
    (h : d.Received q r text) (hsame : p.Same q) : d.Received p r text := by
  obtain ⟨hfolder, houtput⟩ := hsame
  have hwrote : ∀ name printed, q.Wrote r name text printed → p.Wrote r name text printed := by
    rintro name printed ⟨hholds, hothers, hprinted⟩
    exact ⟨hholds, by rwa [← hfolder], by rwa [← houtput]⟩
  cases d with
  | file name => exact hwrote _ _ h
  | directory parent name => exact hwrote _ _ h
  | output => exact ⟨h.1.trans hfolder, by rw [h.2, houtput]⟩

/-- Delivering a text delivers it to its destination, or breaks off. -/
theorem deliver_meets (p : Progress) (text : String) (d : Destination) :
    (deliver text d).Meets p (fun _ q => d.Received p q text) fun e _ => ¬ e.IsRefusal := by
  cases d with
  | file name => exact writeFile_meets p name text
  | output => exact ⟨rfl, rfl⟩
  | directory parent name =>
    refine meets_bind (makeDirectory_meets p parent) fun _ made ⟨hfiles, houtput⟩ => ?_
    refine meets_bind (writeFile_meets made (parent.join name) text) fun _ q hwrote => ?_
    -- what is reported and printed now leaves the files alone
    refine ⟨hwrote.holds, fun place hplace => ?_, ?_⟩
    · rw [← hfiles]
      exact hwrote.others place hplace
    · show q.output ++ _ = _
      rw [hwrote.output, String.append_empty, houtput]

/-! ## Renderings -/

/-- Rendering delivers the text that the template gives with the data, and ends with zero. One that
is refused has done nothing. -/
theorem render_meets (formats : Formats) (input : String) (config : Option String)
    (template : String) (o : RenderOptions) (p : Progress) :
    (render formats input config template o).Meets p
      (fun code q => code = 0 ∧
        ∃ i : Rendering, i.IsFor formats p.folder input config template o ∧
          ∃ text, i.text? o = .ok text ∧ (destination i.settings o text).Received p q text)
      fun e q => e.IsRefusal → p.Same q := by
  have hlooks := renderWith_looks formats input config template o p rfl
  refine meets_bind (hlooks.mono (fun _ _ h => h) fun _ _ h _ => h) ?_
  rintro ⟨settings, text⟩ q ⟨⟨i, hi, rfl, htext⟩, hsame⟩
  -- nothing was written or printed so far, and what follows refuses nothing
  refine meets_bind ((deliver_meets q text _).mono (fun _ _ h => h) fun _ _ h h' => absurd h' h) ?_
  intro _ r hreceived
  exact ⟨rfl, i, hi, text, htext, hreceived.of_same hsame⟩

/-! ## Where the text is -/

/-- The file holds the text, every other file is as before, and `printed` is what is printed. -/
structure Outcome.Wrote (out : Outcome) (before : Folder) (name : FileName)
    (text printed : String) : Prop where
  holds : out.folder.files.lookup name.place = some (.text text)
  others : ∀ place, place ≠ name.place →
    out.folder.files.lookup place = before.files.lookup place
  output : out.output = printed

/-- A command that ends with the exit code zero has taken all its steps. -/
theorem exists_perform_of_exitCode (formats : Formats) (s : Surroundings) (r : Request)
    (h : (run formats s r).exitCode = 0) :
    ∃ q, (perform formats s.input r).run ⟨s.folder, "", []⟩ = .ok 0 q ∧
      run formats s r = q.outcome (.exit 0) := by
  unfold run at h ⊢
  cases hresult : (perform formats s.input r).run ⟨s.folder, "", []⟩ with
  | ok code q =>
    rw [hresult] at h
    obtain rfl : code = 0 := h
    exact ⟨q, rfl, rfl⟩
  | error failure q =>
    rw [hresult] at h
    cases failure <;> cases h

/-- Just one of three statements holds. -/
def JustOne (a b c : Prop) : Prop := (a ∧ ¬b ∧ ¬c) ∨ (¬a ∧ b ∧ ¬c) ∨ (¬a ∧ ¬b ∧ c)

/-- The directory to save in: that of the command, else that of the settings. -/
def directoryFor (settings : Settings) (o : RenderOptions) : Option String :=
  (given o.save).or (given settings.outputDir)

/-- The text is in the output file, and nowhere else. -/
def InOutputFile (o : RenderOptions) (before : Folder) (out : Outcome) (text : String) : Prop :=
  ∃ name, given o.output = some name ∧ out.Wrote before (.ofText name) text ""

/-- The text is in a file of the directory to save in, under its own name, and nowhere else; the
name of the file is printed. -/
def InDirectory (settings : Settings) (o : RenderOptions) (before : Folder) (out : Outcome)
    (text : String) : Prop :=
  ∃ directory, directoryFor settings o = some directory ∧
    let target := (FileName.ofText directory).join
      (.ofText (Artifact.filename text settings.defaultFilename settings.artifactSuffix))
    out.Wrote before target text (target.toText ++ "\n")

/-- The text is printed, there being neither an output file nor a directory to save in, and nowhere
else. -/
def OnStandardOutput (settings : Settings) (o : RenderOptions) (before : Folder) (out : Outcome)
    (text : String) : Prop :=
  given o.output = none ∧ directoryFor settings o = none ∧ out.output = text ∧ out.folder = before

section Destinations

variable (settings : Settings) (o : RenderOptions) (text : String)

theorem destination_of_output (name : String) (houtput : given o.output = some name) :
    destination settings o text = .file (.ofText name) := by
  rw [destination, houtput]

theorem destination_of_directory (directory : String) (houtput : given o.output = none)
    (hdirectory : directoryFor settings o = some directory) :
    destination settings o text = .directory (.ofText directory)
      (.ofText (Artifact.filename text settings.defaultFilename settings.artifactSuffix)) := by
  rw [directoryFor] at hdirectory
  rw [destination, houtput, hdirectory]

theorem destination_of_none (houtput : given o.output = none)
    (hdirectory : directoryFor settings o = none) :
    destination settings o text = .output := by
  rw [directoryFor] at hdirectory
  rw [destination, houtput, hdirectory]

/-- A text that was delivered, with nothing printed before, is in one place. -/
theorem justOne_of_received (p q : Progress) (ending : Ending) (hp : p.output = "")
    (h : (destination settings o text).Received p q text) :
    JustOne (InOutputFile o p.folder (q.outcome ending) text)
      (InDirectory settings o p.folder (q.outcome ending) text)
      (OnStandardOutput settings o p.folder (q.outcome ending) text) := by
  have hwrote : ∀ name printed, p.Wrote q name text printed →
      (q.outcome ending).Wrote p.folder name text printed := by
    rintro name printed ⟨hholds, hothers, houtput⟩
    exact ⟨hholds, hothers, by rwa [hp, String.empty_append] at houtput⟩
  cases houtput : given o.output with
  | some name =>
    rw [destination_of_output settings o text name houtput] at h
    have hfile := hwrote _ _ h
    refine .inl ⟨⟨name, houtput, hfile⟩, ?_, ?_⟩
    · -- the name of a saved file would be printed
      rintro ⟨directory, -, hsaved⟩
      have hempty := hsaved.output.symm.trans hfile.output
      simpa using congrArg String.toList hempty
    · rintro ⟨hnone, -⟩
      rw [houtput] at hnone
      cases hnone
  | none =>
    have hnotFile : ∀ out, ¬ InOutputFile o p.folder out text := by
      rintro out ⟨name, hname, -⟩
      rw [houtput] at hname
      cases hname
    cases hdirectory : directoryFor settings o with
    | some directory =>
      rw [destination_of_directory settings o text directory houtput hdirectory] at h
      refine .inr (.inl ⟨hnotFile _, ⟨directory, hdirectory, hwrote _ _ h⟩, ?_⟩)
      rintro ⟨-, hnone, -⟩
      rw [hdirectory] at hnone
      cases hnone
    | none =>
      rw [destination_of_none settings o text houtput hdirectory] at h
      obtain ⟨hfolder, hprinted⟩ := h
      rw [hp, String.empty_append] at hprinted
      refine .inr (.inr ⟨hnotFile _, ?_, houtput, hdirectory, hprinted, hfolder⟩)
      rintro ⟨directory, hsome, -⟩
      rw [hdirectory] at hsome
      cases hsome

end Destinations

/-- A rendering that ends with the exit code zero delivers what the template gives with the data,
and just once: in the output file, with nothing printed, or in a file of the directory to save in,
with its name printed, or on the standard output. No other file changes. This holds whatever
documents the files of data and settings are, and whatever settings they make. -/
theorem render_delivered_once (formats : Formats) (s : Surroundings) (r : Request)
    (template : String) (o : RenderOptions) (haction : r.action = .render template o)
    (hexit : (run formats s r).exitCode = 0) :
    ∃ i : Rendering, i.IsFor formats s.folder s.input r.config template o ∧
      ∃ text, i.text? o = .ok text ∧
        JustOne (InOutputFile o s.folder (run formats s r) text)
          (InDirectory i.settings o s.folder (run formats s r) text)
          (OnStandardOutput i.settings o s.folder (run formats s r) text) := by
  obtain ⟨q, hperform, hrun⟩ := exists_perform_of_exitCode formats s r hexit
  have hmeets := render_meets formats s.input r.config template o ⟨s.folder, "", []⟩
  rw [perform, haction] at hperform
  rw [Meets, hperform] at hmeets
  obtain ⟨-, i, hi, text, htext, hreceived⟩ := hmeets
  rw [hrun]
  exact ⟨i, hi, text, htext, justOne_of_received i.settings o text _ q _ rfl hreceived⟩

/-- Libraries that read two documents, one with data and one with settings. -/
def twoDocuments : Formats where
  document text :=
    if text = "h: r1\n" then .ok (.object [("h", .text "r1")])
    else if text = "output_dir: build\n" then .ok (.object [("output_dir", .text "build")])
    else .error .malformed
  settings?
    | [] => some .standard
    | [("output_dir", .text directory)] =>
      some { Settings.standard with outputDir := some directory }
    | _ => none

/-- A text with the host name from a file of data, saved in the directory that the settings name,
which is made for it. -/
theorem render_delivered_once_saved :
    let s : Surroundings := ⟨⟨⟨"/", []⟩, [(["t"], .text "hostname \x7b\x7bh\x7d\x7d"),
      (["data.yaml"], .text "h: r1\n"),
      (["cfgtpl.yaml"], .text "output_dir: build\n")], []⟩, "", false⟩
    let o : RenderOptions := ⟨some "data.yaml", [], false, false, false, none, none⟩
    let r : Request := ⟨false, none, .render "t" o⟩
    (r.action = .render "t" o ∧ (run twoDocuments s r).exitCode = 0) ∧
      (run twoDocuments s r).output = "build/r1.cfg\n" ∧
      ∃ i : Rendering, i.IsFor twoDocuments s.folder s.input none "t" o ∧
        ∃ text, i.text? o = .ok text ∧
          InDirectory i.settings o s.folder (run twoDocuments s r) text := by
  intro s o r
  have hrun : ((run twoDocuments s r).exitCode, (run twoDocuments s r).output,
      (run twoDocuments s r).folder.files.length) = (0, "build/r1.cfg\n", 4) := by decide +kernel
  rw [Prod.mk.injEq, Prod.mk.injEq] at hrun
  obtain ⟨hexit, houtput, hfiles⟩ := hrun
  obtain ⟨i, hi, text, htext, hone⟩ := render_delivered_once twoDocuments s r "t" o rfl hexit
  refine ⟨⟨rfl, hexit⟩, houtput, i, hi, text, htext, ?_⟩
  rcases hone with ⟨⟨name, hname, -⟩, -⟩ | ⟨-, hsaved, -⟩ | ⟨-, -, -, -, -, hfolder⟩
  · cases hname
  · exact hsaved
  · -- there is one file more than before
    rw [hfolder] at hfiles
    cases hfiles

end Command

end Stencil
