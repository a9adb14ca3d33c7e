import LayoutAlgebra.Value.Comparison
set_option autoImplicit false

namespace LayoutAlgebra

namespace Linear

def check (e : Expression) : Fallible Expression :=
  match e.kind, e.attr with
  | .linear, _ => .ok e
  | .length, .attr a =>
    if e.hasElement then if a.isDimension then .ok e else .error (.notLength a)
    else if a = .notAnAttribute then .ok e
    else .error (.literalAttribute e.attr)
  | .length, _ => .error (if e.hasElement then .noMember else .literalAttribute e.attr)
  | .position, .attr a =>
    if !e.hasElement then .error .positionWithoutElement
    else if a.isPosition then .ok e
    else .error (.notPosition a)
  | .position, _ => .error (if e.hasElement then .noMember else .positionWithoutElement)
  | .ratio, .attr .height => if e.hasElement then .ok e else .error .ratioWithoutElement
  | .ratio, _ => .error (if e.hasElement then .ratioNotHeight else .ratioWithoutElement)

def reading (kind : Kind) (element : Value) (attr : Attribute) : Expression :=
  { kind, element, attr := .attr attr, constant := .noOffset, multiplier := .noScale, priority := .none }

def plus (around : Surroundings) (e : Expression) (amount : Value) : Fallible Expression := do
  return { e with constant := ← around.add e.constant amount }

def minus (around : Surroundings) (e : Expression) (amount : Value) : Fallible Expression := do
  return { e with constant := ← around.sub e.constant amount }

def scaledBy (e : Expression) (factor : Value) : Fallible Expression := do
  return { e with multiplier := ← factor.asDouble }

def withPriority (e : Expression) (priority : Value) : Expression := { e with priority }

-- Neither offset nor scale. The scale is looked at only where there is no offset.
def isIdentity (around : Surroundings) (e : Expression) : Fallible Verdict := do
  let unmoved ← around.equality true e.constant (.int 0)
  if ← unmoved.truth then around.equality true e.multiplier (.int 1) else return unmoved

def literal (v : Value) : Fallible Expression := do return literalOf (← v.asDouble)

end Linear

def proportion (around : Surroundings) (numerator denominator : Value) : Fallible Value := do
  if ← around.equals denominator 0 then throw (.zeroRatio numerator denominator) else around.div numerator denominator

namespace Value

def relatedTo (lhs rhs : Value) (sign : Relation) : Fallible (Relationship Value) :=
  match lhs with
  | .linear _ e => do
    match ← e.coerce rhs with
    | some coerced => return ⟨lhs, coerced, .relation sign⟩
    | .none => throw (.unrelated lhs rhs)
  | _ => .error (.unrelatable lhs)

def equalTo (lhs rhs : Value) : Fallible (Relationship Value) := lhs.relatedTo rhs .equal

def relate (lhs rhs : Value) (sign : Relation) : Fallible (Relationship Value) :=
  match lhs with
  | .number _ _ => do (Value.linear .new (← Linear.literal lhs)).relatedTo rhs sign
  | _ => lhs.relatedTo rhs sign

def withScale (v factor : Value) : Fallible Value :=
  match v with
  | .linear _ e => do return .linear .new (← e.scaledBy factor)
  | _ => .error .noMember

def withPriority (v priority : Value) : Fallible Value :=
  match v with
  | .linear _ e => .ok (.linear .new (e.withPriority priority))
  | _ => .error .noMember

def between (length low high : Value) : Fallible (List (Relationship Value)) := do
  let low ← Linear.literal low
  let high ← Linear.literal high
  return [⟨.linear .new low, length, .relation .lessOrEqual⟩, ⟨length, .linear .new high, .relation .lessOrEqual⟩]

end Value

namespace Surroundings

-- Offsets accumulate on linear expressions and replace those of edges and centres.
def withOffset (around : Surroundings) (v amount : Value) : Fallible Value :=
  match v with
  | .edges _ e => do return .edges .new (← e.offsetBy amount)
  | .center _ e => do return .center .new (← e.offsetBy amount)
  | .linear _ e => do return .linear .new (← e.plus around amount)
  | _ => .error .noMember

def withInverseScale (around : Surroundings) (v divisor : Value) : Fallible Value :=
  match v with
  | .linear _ e => do
    if ← around.equals divisor 0 then throw (.zeroDivisor v)
    else return .linear .new { e with multiplier := ← around.div e.multiplier divisor }
  | _ => .error .noMember

def range (around : Surroundings) (v a b : Value) : Fallible (List (Relationship Value)) :=
  match v with
  | .linear _ ⟨.length, _, _, _, _, _⟩ => do
    let low ← around.lesser a b
    let high ← around.greater a b
    v.between low high
  | _ => .error .noMember

end Surroundings

namespace Config

-- A priority inside the bounds; anything else, an undefined number included, is refused.
def checkPriority (around : Surroundings) (c : Config Value) (value what : Value) : Fallible Value := do
  let verdict ← around.chain c.minPriority value c.maxPriority
  if ← verdict.truth then return value else throw (.outsideBounds what c.minPriority c.maxPriority value)

def check (around : Surroundings) (c : Config Value) : Fallible (Config Value) := do
  let crossed ← around.compare .gt c.minPriority c.maxPriority
  if ← crossed.truth then throw (.boundsCrossed c.minPriority c.maxPriority)
  let _ ← c.checkPriority around c.defaultPriority (.ofText "default_priority")
  let _ ← c.checkPriority around c.defaultCompression (.ofText "default_compression_resistance")
  let _ ← c.checkPriority around c.defaultExpansion (.ofText "default_expansion_resistance")
  let negative ← around.compare .lt c.defaultMargin (.int 0)
  if ← negative.truth then throw (.negativeMargin c.defaultMargin)
  return c

def required : Int := 1000

def default : Config Value where
  defaultPriority := .number (.standing "required priority") (.int required)
  minPriority := .int 1
  maxPriority := .number (.standing "required priority") (.int required)
  defaultCompression := .number (.standing "high priority") (.int 750)
  defaultExpansion := .int 250
  defaultMargin := .number (.standing "margin") (.double (.round 8))

end Config

end LayoutAlgebra
