import Cohort.Expression.Basic
import Cohort.Fault

/-! # Plans: expressions known to be well formed -/

namespace Cohort

/-- An expression in which every node is either a tag or a set operation on at least one part, where
a difference has at least two. -/
inductive Plan where
  | tag (t : Tag)
  | set (op : SetOperation) (parts : List Plan)

namespace Plan

mutual

/-- The tags of a plan from left to right. -/
def leaves : Plan → List Tag
  | .tag t => [t]
  | .set _ parts => leavesOf parts

/-- The tags of plans. -/
def leavesOf : List Plan → List Tag
  | [] => []
  | p :: rest => p.leaves ++ leavesOf rest

end

end Plan

/-- What a node is by itself, whatever its children are. -/
inductive NodeShape where
  | tag (t : Tag)
  | set (op : SetOperation)

namespace Expression

/-- The fields of a node that hold something. -/
def shapes (e : Expression) : List NodeShape :=
  (SetOperation.all.filter fun op => !(e.children op).isEmpty).map .set ++ e.tag.toList.map .tag

/-- What a node is, if it is one thing only. A difference of one child is refused first. -/
def shape (e : Expression) : Except ExpressionFault NodeShape :=
  if e.except.length = 1 then .error .exceptTooShort
  else match e.shapes with
    | [s] => .ok s
    | _ => .error .notOneField

mutual

/-- The plan of an expression. A node is looked at before its children, and these from left to
right. -/
def plan : Expression → Except ExpressionFault Plan
  | ⟨intersect, union, except, tag⟩ => do
    match ← shape ⟨intersect, union, except, tag⟩ with
    | .tag t => return .tag t
    | .set .intersect => return .set .intersect (← planAll intersect)
    | .set .union => return .set .union (← planAll union)
    | .set .except => return .set .except (← planAll except)

/-- The plans of expressions. -/
def planAll : List Expression → Except ExpressionFault (List Plan)
  | [] => .ok []
  | e :: rest => do
    let p ← e.plan
    return p :: (← planAll rest)

end

/-- Checks the whole tree. -/
def validate (e : Expression) : Except ExpressionFault Unit :=
  e.plan.map fun _ => ()

end Expression

end Cohort
