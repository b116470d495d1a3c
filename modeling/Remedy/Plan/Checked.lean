import Remedy.Plan.Issue

/-!
# Checks

The result of reading a value out of a document. A value of the wrong kind gives no result at all. A
value of the right kind that breaks a rule still gives one, so that the rules of what encloses it
can be checked as well, and all issues are reported together.
-/

namespace Remedy

structure Checked (α : Type) where
  value? : Option α
  issues : List Issue
  deriving DecidableEq, Repr

namespace Checked

variable {α β : Type}

def accept (a : α) : Checked α := ⟨some a, []⟩

def refuse (cause : Cause) : Checked α := ⟨none, [⟨[], cause⟩]⟩

instance : Applicative Checked where
  pure := accept
  seq f a :=
    let a := a ()
    ⟨f.value?.bind fun f => a.value?.map f, f.issues ++ a.issues⟩

/-- Moves the issues to where the value stands in its document. -/
def under (step : PathStep) (c : Checked α) : Checked α :=
  ⟨c.value?, c.issues.map fun issue => { issue with path := step :: issue.path }⟩

/-- Adds a rule for the value, if there is one. -/
def guard (rule : α → Bool) (cause : Cause) (c : Checked α) : Checked α :=
  match c.value? with
  | some a => if rule a then c else ⟨some a, c.issues ++ [⟨[], cause⟩]⟩
  | none => c

/-- Adds the issues that a survey of the value finds, if there is a value. -/
def survey (find : α → List Issue) (c : Checked α) : Checked α :=
  match c.value? with
  | some a => ⟨some a, c.issues ++ find a⟩
  | none => c

/-- The first of two shapes that fits; if none does, the first that is at least of the
right kind. -/
def orElse (a b : Checked α) : Checked α :=
  if a.value?.isSome && a.issues.isEmpty then a
  else if b.value?.isSome && b.issues.isEmpty then b
  else if a.value?.isSome then a
  else if b.value?.isSome then b
  else refuse .noAlternative

/-- The value, if nothing is wrong with it. -/
def result (c : Checked α) : Except (List Issue) α :=
  match c.value?, c.issues with
  | some a, [] => .ok a
  | _, issues => .error issues

end Checked

/-! ## Reading data -/

/-- A reader of a value that may be missing. -/
abbrev Reading (α : Type) := Option Data → Checked α

namespace Reading

variable {α : Type}

def required (read : Data → Checked α) : Reading α
  | none => .refuse .required
  | some d => read d

def optional (read : Data → Checked α) : Reading (Option α)
  | none => .accept none
  | some d => some <$> read d

def withDefault (value : α) (read : Data → Checked α) : Reading α
  | none => .accept value
  | some d => read d

/-- A value of one of two shapes. -/
def choice (first second : Reading α) : Reading α := fun d => (first d).orElse (second d)

/-- A member of a map. -/
def member (key : Text) (read : Reading α) (d : Data) : Checked α :=
  (read (d.member? key)).under (.key key)

def text : Data → Checked Text
  | .text t => .accept t
  | d => .refuse (.wrongKind "string" d.kind)

/-- A text with a rule for it. -/
def textWith (rule : Text → Bool) (cause : Cause) (d : Data) : Checked Text :=
  (text d).guard rule cause

def nonEmpty (cause : Cause) : Data → Checked Text := textWith (fun t => !t.isEmpty) cause

/-- The items of a list, the first of which has the given index. -/
def items (read : Data → Checked α) (i : Nat) : List Data → Checked (List α)
  | [] => .accept []
  | d :: ds => (· :: ·) <$> (read d).under (.index i) <*> items read (i + 1) ds

def list (read : Data → Checked α) : Data → Checked (List α)
  | .list ds => items read 0 ds
  | d => .refuse (.wrongKind "array" d.kind)

/-- A list with a rule for its length; a breach is reported before the issues of the items. -/
def listWith (rule : Nat → Bool) (cause : Cause) (read : Data → Checked α) :
    Data → Checked (List α)
  | .list ds =>
    let c := items read 0 ds
    if rule ds.length then c else ⟨c.value?, ⟨[], cause⟩ :: c.issues⟩
  | d => .refuse (.wrongKind "array" d.kind)

/-- A map, whose members are read from the value. -/
def map (read : Data → Checked α) (d : Data) : Checked α :=
  match d with
  | .map _ => read d
  | d => .refuse (.wrongKind "object" d.kind)

/-- A map in one of several variants, told apart by a member that names the variant. -/
def variant (key : Text) (variants : List (Text × (Data → Checked α))) : Data → Checked α :=
  map fun d =>
    let named : Option (Data → Checked α) := match d.member? key with
      | some (.text name) => (variants.find? fun (v, _) => v == name).map Prod.snd
      | _ => none
    match named with
    | some read => read d
    | none => (Checked.refuse (.unknownVariant (variants.map Prod.fst))).under (.key key)

end Reading

end Remedy
