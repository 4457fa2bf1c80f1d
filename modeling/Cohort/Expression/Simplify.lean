import Cohort.Expression.Basic

/-! # Simplifying expressions -/

namespace Cohort.Expression

/-- Whether a node has children under one operation and holds nothing else. -/
def isPure (op : SetOperation) (e : Expression) : Bool :=
  e.tag.isNone && SetOperation.all.all fun other => (other == op) != (e.children other).isEmpty

/-- What a simplified child gives to a parent with an operation: its children if it is a node of that
operation and nothing else, or itself. -/
def partsUnder (op : SetOperation) (e : Expression) : List Expression :=
  if e.isPure op then e.children op else [e]

/-- A node of the parts; of one part, the part itself. -/
def combine (op : SetOperation) : List Expression → Expression
  | [only] => only
  | parts => ofSet op parts

mutual

/-- The expression with intersections inside intersections and unions inside unions joined, and with
such nodes of one part replaced by the part. Differences are kept as they are. -/
def simplify : Expression → Expression
  | ⟨intersect, union, except, some tag⟩ => ⟨intersect, union, except, some tag⟩
  | ⟨intersect, union, except, none⟩ =>
    if !intersect.isEmpty then
      combine .intersect ((simplifyAll intersect).flatMap (partsUnder .intersect))
    else if !union.isEmpty then
      combine .union ((simplifyAll union).flatMap (partsUnder .union))
    else ofSet .except (simplifyAll except)

/-- Simplifies expressions one by one. -/
def simplifyAll : List Expression → List Expression
  | [] => []
  | e :: rest => e.simplify :: simplifyAll rest

end

end Cohort.Expression
