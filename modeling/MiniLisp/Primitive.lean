import MiniLisp.Sexp.Build
import MiniLisp.Text.Case.Upper

/-! # Primitives

The operations that every program can use. Names are recognised in any case. -/

namespace MiniLisp

/-- A primitive operation. -/
inductive Primitive where
  | car
  | cdr
  | cons
  | list
  | atom
  | int
  | null
  | eq
  | plus
  | minus
  | times
  | quotient
  | remainder
  | less
  | greater
  | print
  deriving Repr, DecidableEq

namespace Primitive

/-- All primitives, in the order in which they are offered. -/
def all : List Primitive :=
  [.car, .cdr, .cons, .list, .atom, .int, .null, .eq, .plus, .minus, .times, .quotient, .remainder,
   .less, .greater, .print]

/-- The name of a primitive, in capitals. -/
def name : Primitive → String
  | .car => "CAR"
  | .cdr => "CDR"
  | .cons => "CONS"
  | .list => "LIST"
  | .atom => "ATOM"
  | .int => "INT"
  | .null => "NULL"
  | .eq => "EQ"
  | .plus => "PLUS"
  | .minus => "MINUS"
  | .times => "TIMES"
  | .quotient => "QUOTIENT"
  | .remainder => "REMAINDER"
  | .less => "LESS"
  | .greater => "GREATER"
  | .print => "PRINT"

/-- How a primitive is called. -/
def signature : Primitive → String
  | .car => "(CAR list)"
  | .cdr => "(CDR list)"
  | .cons => "(CONS x list)"
  | .list => "(LIST &rest xs)"
  | .atom => "(ATOM x)"
  | .int => "(INT x)"
  | .null => "(NULL x)"
  | .eq => "(EQ a b)"
  | .plus => "(PLUS a b)"
  | .minus => "(MINUS a b)"
  | .times => "(TIMES a b)"
  | .quotient => "(QUOTIENT a b)"
  | .remainder => "(REMAINDER a b)"
  | .less => "(LESS a b)"
  | .greater => "(GREATER a b)"
  | .print => "(PRINT x)"

/-- The number of arguments, if it is fixed. -/
def arity? : Primitive → Option Nat
  | .list => none
  | .car | .cdr | .atom | .int | .null | .print => some 1
  | .cons | .eq | .plus | .minus | .times | .quotient | .remainder | .less | .greater => some 2

/-- The primitive with a given name in any case. -/
def ofName? (s : String) : Option Primitive :=
  let name := Text.upper s
  all.find? fun p => p.name = name

/-- The number that an argument denotes. -/
def integerArgument (p : Primitive) : Sexp → Except Error Int
  | .atom a => if a.isInt then a.value else .error (.integerExpected p.name (.atom a))
  | x => .error (.integerExpected p.name x)

/-- The first element and the others of an argument. -/
def listArgument (p : Primitive) : Sexp → Except Error (Sexp × List Sexp)
  | .list head tail => .ok (head, tail)
  | x => .error (.listExpected p.name x)

/-- The number that an argument denotes, which must not be zero. -/
def divisorArgument (p : Primitive) (x : Sexp) : Except Error Int := do
  let d ← p.integerArgument x
  if d = 0 then .error (.divisionByZero p.name) else .ok d

/-- An expression from the result of a computation. -/
def integerResult (n : Int) : Except Error Sexp := .atom <$> Atom.ofInteger n

/-- An expression from the result of a test. -/
def testResult (b : Bool) : Except Error Sexp := .ok (.atom (Atom.ofBool b))

/-- A computation with two integers, the first of which is looked at first. -/
def onIntegers (p : Primitive) (a b : Sexp) (f : Int → Int → Except Error Sexp) :
    Except Error Sexp := do
  let x ← p.integerArgument a
  let y ← p.integerArgument b
  f x y

/-- The quotient of the absolute values, negated if just one of the numbers is negative. -/
def signedQuotient (n d : Int) : Int :=
  let q : Nat := n.natAbs / d.natAbs
  if n < 0 ↔ d < 0 then q else -q

/-- The remainder of the absolute values, negated if the dividend is negative. -/
def signedRemainder (n d : Int) : Int :=
  let r : Nat := n.natAbs % d.natAbs
  if n < 0 then -r else r

/-- The quotient goes towards zero. -/
theorem signedQuotient_eq_tdiv (n d : Int) : signedQuotient n d = n.tdiv d := by
  rw [signedQuotient]
  cases n with
  | ofNat n =>
    have hn : ¬ Int.ofNat n < 0 := Int.not_lt.2 (Int.natCast_nonneg n)
    cases d with
    | ofNat d => exact if_pos (iff_of_false hn (Int.not_lt.2 (Int.natCast_nonneg d)))
    | negSucc d => exact if_neg fun h => hn (h.2 (Int.negSucc_lt_zero d))
  | negSucc n =>
    have hn := Int.negSucc_lt_zero n
    cases d with
    | ofNat d => exact if_neg fun h => Int.not_lt.2 (Int.natCast_nonneg d) (h.1 hn)
    | negSucc d => exact if_pos (iff_of_true hn (Int.negSucc_lt_zero d))

/-- The remainder goes with the quotient, and has the sign of the dividend. -/
theorem signedRemainder_eq_tmod (n d : Int) : signedRemainder n d = n.tmod d := by
  rw [signedRemainder]
  cases n with
  | ofNat n =>
    have hn : ¬ Int.ofNat n < 0 := Int.not_lt.2 (Int.natCast_nonneg n)
    cases d with
    | ofNat d => exact if_neg hn
    | negSucc d => exact if_neg hn
  | negSucc n =>
    have hn := Int.negSucc_lt_zero n
    cases d with
    | ofNat d => exact if_pos hn
    | negSucc d => exact if_pos hn

/-- A computation with an integer and a divisor. -/
def onDivision (p : Primitive) (a b : Sexp) (f : Int → Int → Int) : Except Error Sexp := do
  let x ← p.integerArgument a
  let y ← p.divisorArgument b
  integerResult (f x y)

/-- Whether a primitive can be called with `n` arguments. -/
def accepts (p : Primitive) (n : Nat) : Bool :=
  match p.arity? with
  | none => true
  | some k => n = k

/-- The error of a call with `n` arguments when `k` are wanted. -/
def countError (p : Primitive) (k n : Nat) : Error := .argumentCount p.name k n

/-- The value of a primitive at its arguments. -/
def apply : Primitive → List Sexp → Except Error Sexp
  | .list, args => .ok (Sexp.ofList args)
  | .car, [a] => Prod.fst <$> listArgument .car a
  | .cdr, [a] => (fun parts => Sexp.ofList parts.2) <$> listArgument .cdr a
  | .atom, [a] => testResult !a.isList
  | .int, [.atom a] => testResult a.isInt
  | .int, [.list _ _] => testResult false
  | .null, [a] => testResult a.isNil
  | .print, [a] => .ok a
  | .cons, [a, b] =>
    if b.isListOrNil then Sexp.cons (.sexp a) (.sexp b) else .error (.tailExpected b)
  | .eq, [a, b] => if a.isList || b.isList then .error (.atomsExpected a b) else testResult (a == b)
  | .plus, [a, b] => onIntegers .plus a b fun x y => integerResult (x + y)
  | .minus, [a, b] => onIntegers .minus a b fun x y => integerResult (x - y)
  | .times, [a, b] => onIntegers .times a b fun x y => integerResult (x * y)
  | .quotient, [a, b] => onDivision .quotient a b signedQuotient
  | .remainder, [a, b] => onDivision .remainder a b signedRemainder
  | .less, [a, b] => onIntegers .less a b fun x y => testResult (x < y)
  | .greater, [a, b] => onIntegers .greater a b fun x y => testResult (y < x)
  | p, args => .error (p.countError (p.arity?.getD 0) args.length)

/-- The text that a primitive prints. -/
def printed : Primitive → List Sexp → String
  | .print, [a] => a.render ++ "\n"
  | _, _ => ""

end Primitive

end MiniLisp
