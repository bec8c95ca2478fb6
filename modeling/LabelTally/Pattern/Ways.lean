import LabelTally.Pattern.Basic

/-!
# Alternatives

Steps at which all alternatives start are taken out of them, and alternatives of single characters
are one class.
-/

namespace LabelTally.Pattern

/-- Two steps are plainly the same. Steps with steps inside never are. -/
def Step.isSame : Step → Step → Bool
  | .one a, .one b => a == b
  | .anchor a, .anchor b => a == b
  | .back f i, .back g j => f == g && i == j
  | _, _ => false

/-- The step at which all ways start. -/
def commonStart : List (List Step) → Option Step
  | (step :: _) :: ways =>
    if ways.all fun way => way.head?.any (·.isSame step) then some step else none
  | _ => none

/-- The steps that all ways have in common at their start, and the rest of each; `fuel` bounds the
number of the former. -/
def splitCommon : (fuel : Nat) → List (List Step) → List Step × List (List Step)
  | 0, ways => ([], ways)
  | fuel + 1, ways =>
    match commonStart ways with
    | none => ([], ways)
    | some step =>
      let (common, rest) := splitCommon fuel (ways.map (·.drop 1))
      (step :: common, rest)

/-- The class items of a way that is a literal or a class and nothing else. -/
def classItems? : List Step → Option (List ClassItem)
  | [.one (.literal _ code)] => some [.code code]
  | [.one (.oneOf c)] => if c.negated then none else some c.items
  | _ => none

/-- The steps for ways of which one is taken. -/
def joinWays (fold : Fold) : List (List Step) → List Step
  | [way] => way
  | ways =>
    let (common, rest) := splitCommon ways.flatten.length ways
    match rest.mapM classItems? with
    | some items => common ++ [.one (.oneOf { fold, items := items.flatten.eraseDups })]
    | none => common ++ [.branch rest]

end LabelTally.Pattern
