import Stencil.Proofs.AttemptRules
import Stencil.Proofs.StrictReading

/-!
# What the steps of a command give

Before a command prints or writes, it reads files, settings, data and the template, and renders. All
these steps only look. Here stands for each of them what it gives when it succeeds, told by the
files and the options alone; what was reported on the way plays no part.

## Key results

- `loadSettings_looks`, `readTemplate_looks`, `parseTemplate_looks`, `renderData_looks`: the parts
  of a rendering.
- `renderWith_looks`: what a rendering is made of.
-/

namespace Stencil.Command

open Attempt

variable {folder : Folder}

/-! ## Files -/

section Documents

variable (formats : Formats)

/-- The text is that of a document with these fields; a document of nothing has none. -/
def IsDocumentOf (text : String) (fields : Entries Value) : Prop :=
  formats.document text = .ok (.object fields) ∨ formats.document text = .ok .null ∧ fields = []

/-- The file holds a document with these fields. -/
def HoldsFields (folder : Folder) (name : FileName) (fields : Entries Value) : Prop :=
  ∃ text, folder.read name = .ok (some text) ∧ IsDocumentOf formats text fields

/-- The settings are those in the named file, or in the usual one if none is named; without the
usual file they are the standard ones. -/
def InForce (folder : Folder) (config : Option FileName) (settings : Settings) : Prop :=
  (∃ fields, HoldsFields formats folder (config.getD settingsFile) fields ∧
    formats.settings? fields = some settings) ∨
  config = none ∧ folder.read settingsFile = .ok none ∧ settings = .standard

theorem readFields_looks (text : String) (broken noObject : Refusal) :
    Looks (readFields formats text broken noObject) folder (IsDocumentOf formats text) := by
  unfold readFields
  split
  · next hnull => exact looks_pure [] (.inr ⟨hnull, rfl⟩)
  · next fields hfields => exact looks_pure fields (.inl hfields)
  · exact looks_refuse _
  · exact looks_throw _

theorem readSettings_looks (name text : String) :
    Looks (readSettings formats name text) folder fun settings =>
      ∃ fields, IsDocumentOf formats text fields ∧ formats.settings? fields = some settings := by
  refine looks_bind (readFields_looks formats text _ _) fun fields hfields => ?_
  cases hsettings : formats.settings? fields with
  | none => exact looks_refuse _
  | some settings => exact looks_report_bind (looks_pure settings ⟨fields, hfields, hsettings⟩)

theorem loadSettings_looks (config : Option FileName) :
    Looks (loadSettings formats config) folder (InForce formats folder config) := by
  -- settings in a file that is there
  have hfile : ∀ name text shown, name = config.getD settingsFile →
      folder.read name = .ok (some text) →
      Looks (readSettings formats shown text) folder (InForce formats folder config) := by
    rintro name text shown rfl hread
    refine (readSettings_looks formats shown text).mono ?_
    rintro settings ⟨fields, hfields, hsettings⟩
    exact .inl ⟨fields, ⟨text, hread, hfields⟩, hsettings⟩
  cases config with
  | some name =>
    refine looks_bind (readFile_looks name) fun found hfound => ?_
    cases found with
    | none => exact looks_refuse _
    | some text => exact hfile name text _ rfl hfound
  | none =>
    refine looks_bind (readFile_looks settingsFile) fun found hfound => ?_
    cases found with
    | none => exact looks_pure _ (.inr ⟨rfl, hfound, rfl⟩)
    | some text => exact looks_bind get_looks fun p _ => hfile settingsFile text _ rfl hfound

theorem loadData_looks (name : FileName) :
    Looks (loadData formats name) folder (HoldsFields formats folder name) := by
  refine looks_bind (readFile_looks name) fun found hfound => ?_
  cases found with
  | none => exact looks_refuse _
  | some text =>
    exact (readFields_looks formats text _ _).mono fun fields hfields => ⟨text, hfound, hfields⟩

end Documents

/-- The text is that of the file, or the standard input for a hyphen. -/
def IsTemplate (folder : Folder) (input template source : String) : Prop :=
  if template = "-" then source = String.ofList (Text.unifyNewlines input.toList)
  else folder.read (.ofText template) = .ok (some source)

theorem readTemplate_looks (input template : String) :
    Looks (readTemplate input template) folder (IsTemplate folder input template) := by
  unfold readTemplate IsTemplate
  split
  · exact looks_pure _ rfl
  · refine looks_bind (readFile_looks _) fun found hfound => ?_
    cases found with
    | none => exact looks_refuse _
    | some text => exact looks_pure text hfound

/-- A template that is read, strictly or not, is what reading it leniently gives. -/
theorem parseTemplate_looks (strict : Bool) (source : String) :
    Looks (parseTemplate strict source) folder (· = Template.parse source) := by
  refine looks_report_bind ?_
  cases hparse : Template.parseWith strict source with
  | error d => exact looks_refuse _
  | ok t =>
    refine looks_report_bind (looks_pure t ?_)
    cases strict with
    | false => exact (Except.ok.inj hparse).symm
    | true =>
      have hstrict : Template.parseStrict source = .ok t := hparse
      rw [Template.parseStrict_eq] at hstrict
      split at hstrict
      · exact (Except.ok.inj hstrict).symm
      · cases hstrict

/-! ## Renderings -/

/-- What a rendering is made of: the settings, the text of the template, the data of the file, and
the data of the assignments. -/
structure Rendering where
  settings : Settings
  source : String
  base : Entries Value
  assigned : Entries Value

/-- The rendering is the one that a command asks for. -/
structure Rendering.IsFor (i : Rendering) (formats : Formats) (folder : Folder) (input : String)
    (config : Option String) (template : String) (o : RenderOptions) : Prop where
  settings : InForce formats folder ((given config).map .ofText) i.settings
  source : IsTemplate folder input template i.source
  base : match given o.data with
    | some name => HoldsFields formats folder (.ofText name) i.base
    | none => i.base = []
  assigned : ∃ texts, o.assignments = texts.map some ∧ Assignment.readAll texts = .ok i.assigned

/-- What the template gives with the data, the assignments laid over that of the file. Default
values are used if they are switched on and not switched off by the command. -/
def Rendering.text? (i : Rendering) (o : RenderOptions) : Except Overlong String :=
  ((Template.parse i.source).render (i.settings.applyDefaults && !o.noDefaults)
    (.object (Value.mergeFields i.base i.assigned))).text

/-- If no assignment lacks its text, all texts are before the first that does. -/
theorem eq_map_some_of_length (items : List (Option String))
    (h : ((items.takeWhile Option.isSome).filterMap id).length = items.length) :
    items = ((items.takeWhile Option.isSome).filterMap id).map some := by
  induction items with
  | nil => rfl
  | cons item rest ih =>
    cases item with
    | none => cases h
    | some text => exact congrArg (some text :: ·) (ih (Nat.succ.inj h))

theorem assignedData_looks (items : List (Option String)) :
    Looks (assignedData items) folder fun assigned =>
      ∃ texts, items = texts.map some ∧ Assignment.readAll texts = .ok assigned := by
  unfold assignedData
  dsimp only
  split
  · exact looks_refuse _
  · next assigned hassigned =>
    split
    · next hlength =>
      exact looks_pure assigned ⟨_, eq_map_some_of_length items hlength, hassigned⟩
    · exact looks_throw _

theorem renderData_looks (formats : Formats) (o : RenderOptions) :
    Looks (renderData formats o) folder fun data => ∃ base assigned,
      data = Value.mergeFields base assigned ∧
      (match given o.data with
        | some name => HoldsFields formats folder (.ofText name) base
        | none => base = []) ∧
      ∃ texts, o.assignments = texts.map some ∧ Assignment.readAll texts = .ok assigned := by
  unfold renderData
  cases given o.data with
  | some name =>
    refine looks_bind (loadData_looks formats _) fun base hbase => ?_
    refine looks_bind (assignedData_looks _) fun assigned hassigned => ?_
    exact looks_pure _ ⟨base, assigned, rfl, hbase, hassigned⟩
  | none =>
    have hnothing : Looks (pure []) folder fun base : Entries Value => base = [] :=
      looks_pure [] rfl
    refine looks_bind hnothing fun base hbase => ?_
    refine looks_bind (assignedData_looks _) fun assigned hassigned => ?_
    exact looks_pure _ ⟨base, assigned, rfl, hbase, hassigned⟩

theorem requireValues_looks (required : Bool) (t : Template) (data : Value) :
    Looks (requireValues required t data) folder fun _ => True := by
  unfold requireValues
  split
  · refine looks_bind (ofOverlong_looks _) fun missing _ => ?_
    split
    · exact looks_pure _ trivial
    · exact looks_refuse _
  · exact looks_pure _ trivial

theorem renderText_looks (t : Template) (data : Value) :
    Looks (renderText t data) folder ((t.render true data).text = .ok ·) :=
  looks_report_bind (ofOverlong_looks _)

/-- Rendering gives the settings in force, and the text that the template gives with the data. -/
theorem renderWith_looks (formats : Formats) (input : String) (config : Option String)
    (template : String) (o : RenderOptions) :
    Looks (renderWith formats input config template o) folder fun result =>
      ∃ i : Rendering, i.IsFor formats folder input config template o ∧
        i.settings = result.1 ∧ i.text? o = .ok result.2 := by
  refine looks_bind (loadSettings_looks formats _) fun settings hsettings => ?_
  refine looks_bind (readTemplate_looks input template) fun source hsource => ?_
  refine looks_bind (parseTemplate_looks o.strict source) fun t ht => ?_
  refine looks_bind (renderData_looks formats o) fun data hdata => ?_
  obtain ⟨base, assigned, rfl, hbase, hassigned⟩ := hdata
  subst ht
  -- what is checked and reported here does not change the text
  refine looks_bind (requireValues_looks _ _ _) fun _ _ => looks_report_bind ?_
  refine looks_bind (renderText_looks _ _) fun text htext => ?_
  exact looks_pure _ ⟨⟨settings, source, base, assigned⟩, ⟨hsettings, hsource, hbase, hassigned⟩,
    rfl, htext⟩

end Stencil.Command
