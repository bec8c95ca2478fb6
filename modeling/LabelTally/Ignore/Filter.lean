import LabelTally.Ignore.Rule

/-!
# Ignore filters

The rules of several lines together. The last rule that matches a path as such decides; if none
does, the last one that matches it as part of a directory.
-/

namespace LabelTally.Ignore

/-- A list of rules, earlier ones first. -/
structure Filter where
  /-- The lines the rules were read from. -/
  lines : List String
  /-- The rules. -/
  rules : List Rule
  deriving Repr

/-- Reads the rules of lines; empty lines are passed over. -/
def readRules : List String → Except RuleFault (List Rule)
  | [] => .ok []
  | line :: rest => do
    let rule ← if line.isEmpty then pure none else Rule.ofLine line
    let rules ← readRules rest
    return rule.toList ++ rules

/-- The filter of lines. -/
def Filter.ofLines (lines : List String) : Except RuleFault Filter := do
  return ⟨lines, ← readRules lines⟩

/-- The path without one slash, or one dot and slash, in front. -/
def trimPath : List Char → List Char
  | '/' :: rest => rest
  | '.' :: '/' :: rest => rest
  | cs => cs

/-- The decision of rules given last first, `best` being the weight and the decision so far. -/
def decideFrom (path : Array Char) (best : Nat × Bool) : List Rule → Bool
  | [] => best.2
  | r :: rest =>
    let w := r.weight path
    if w > best.1 then
      if w ≥ 2 then !r.reinclude else decideFrom path (w, !r.reinclude) rest
    else decideFrom path best rest

/-- The path is left out. A directory is tested with a slash at its end. -/
def Filter.ignores (f : Filter) (path : String) (isDirectory : Bool) : Bool :=
  let cs := path.toList ++ (if isDirectory then ['/'] else [])
  decideFrom (trimPath cs).toArray (0, false) f.rules.reverse

end LabelTally.Ignore
