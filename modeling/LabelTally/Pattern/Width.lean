import LabelTally.Pattern.Basic

/-!
# Widths

How many characters the steps of a pattern can take. All numbers are cut off at one bound, which
also stands for a repetition without end.
-/

namespace LabelTally.Pattern

/-- How many characters steps can take, at least and at most. -/
structure Width where
  /-- The least number. -/
  least : Nat
  /-- The greatest number. -/
  most : Nat
  deriving Repr, DecidableEq

/-- The bound at which widths are cut off. -/
def widthLimit : Nat := 18446744073709551616

/-- A number of rounds that no repetition may ask for; it stands for one without end. -/
def roundLimit : Nat := 4294967295

/-- A width within the bound. -/
def Width.cut (w : Width) : Width := ⟨min w.least widthLimit, min w.most widthLimit⟩

mutual

/-- The width of a step, given the widths of the groups it refers to. -/
def stepWidth (groups : Array (Option Width)) : Step → Width
  | .one _ => ⟨1, 1⟩
  | .anchor _ | .look _ _ _ => ⟨0, 0⟩
  | .back _ index => (groups[index]?.join).getD ⟨0, 0⟩
  | .group _ body | .scope body | .atomic body => width groups body
  | .choose _ yes no =>
    let a := width groups yes
    let b := width groups no
    ⟨min a.least b.least, max a.most b.most⟩
  | .branch ways => waysWidth groups ways
  | .many _ least most body =>
    let a := width groups body
    ⟨a.least * least,
      match most with
      | some n => a.most * n
      | none => if a.most = 0 then 0 else widthLimit⟩

/-- The width of steps one after the other. -/
def width (groups : Array (Option Width)) : List Step → Width
  | [] => ⟨0, 0⟩
  | step :: rest =>
    let a := stepWidth groups step
    let b := width groups rest
    (⟨a.least + b.least, a.most + b.most⟩ : Width).cut

/-- The width of ways of which one is taken. -/
def waysWidth (groups : Array (Option Width)) : List (List Step) → Width
  | [] => ⟨widthLimit, 0⟩
  | way :: ways =>
    let a := width groups way
    let b := waysWidth groups ways
    ⟨min a.least b.least, max a.most b.most⟩

end

end LabelTally.Pattern
