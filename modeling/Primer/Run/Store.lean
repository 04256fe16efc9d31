import Primer.Record
import Primer.Fault
import Primer.Value.Text

/-!
# What a run changes besides its scopes

The store holds the values of variables, by the number of the variable, the objects of the host with
their fields, and what was printed. A native function is a function of the host: it may read and change
the store and can fail, but it cannot bind names.

It is assumed of the host that its functions do no more than that. They get values and the store and no scope, so that
none of them calls a function of the program, runs another program, or keeps anything outside the store.
-/

namespace Primer

/-- A table from numbers to what is entered under them. -/
structure Table (α : Type) where
  entries : Array (Option α) := #[]

namespace Table

variable {α : Type}

/-- What is entered under a number. -/
def get? (t : Table α) (i : Nat) : Option α :=
  (t.entries[i]?).join

/-- The table with room for a number. Nothing is entered in the new places. -/
def reserve (t : Table α) (i : Nat) : Table α :=
  { entries := t.entries ++ Array.replicate (i + 1 - t.entries.size) none }

/-- Enters something under a number, in place of what was there. -/
def set (t : Table α) (i : Nat) (a : α) : Table α :=
  { entries := (t.reserve i).entries.setIfInBounds i (some a) }

theorem lt_size_reserve (t : Table α) (i : Nat) : i < (t.reserve i).entries.size := by
  simp only [reserve, Array.size_append, Array.size_replicate]
  omega

theorem get?_reserve (t : Table α) (i j : Nat) : (t.reserve i).get? j = t.get? j := by
  simp only [get?, reserve, Array.getElem?_append]
  by_cases inside : j < t.entries.size
  · rw [if_pos inside]
  · rw [if_neg inside, Array.getElem?_eq_none (Nat.not_lt.mp inside), Array.getElem?_replicate]
    split <;> rfl

/-- A number holds what was entered under it last, and the others hold what they held. -/
theorem get?_set (t : Table α) (i j : Nat) (a : α) :
    (t.set i a).get? j = if j = i then some a else t.get? j := by
  by_cases same : j = i
  · subst same
    simp [get?, set, t.lt_size_reserve j]
  · rw [if_neg same, ← t.get?_reserve i j]
    simp [get?, set, Array.getElem?_setIfInBounds_ne (Ne.symm same)]

end Table

/-- An object of the host: the name of its type, and its fields. -/
structure Object where
  typeName : String
  fields : List Variable := []

/-- The field of an object with this name. -/
def Object.field? (o : Object) (name : String) : Option Variable :=
  o.fields.find? fun v => v.name == name

/-- The values of variables, the objects, and the output so far. -/
structure Store where
  cells : Table Value := {}
  objects : Array Object := #[]
  output : String := ""

namespace Store

/-- The value of a variable. One that was never given a value is nil. -/
def read (s : Store) (v : Variable) : Value :=
  (s.cells.get? v.number).getD .nil

/-- Gives a variable a value. -/
def write (s : Store) (v : Variable) (x : Value) : Store :=
  { s with cells := s.cells.set v.number x }

/-- A variable has the value it was given last, whatever the other variables are given. -/
theorem read_write (s : Store) (v w : Variable) (x : Value) :
    (s.write v x).read w = if w.number = v.number then x else s.read w := by
  simp only [read, write, Table.get?_set]
  split <;> rfl

/-- Prints a text and ends the line. -/
def print (s : Store) (text : String) : Store :=
  { s with output := s.output ++ text ++ "\n" }

/-- The field of a value with this name. Only objects have fields. -/
def field (s : Store) (receiver : Value) (name : String) : Except Fault Variable :=
  match receiver with
  | .object number _ =>
    match (s.objects[number]?).bind fun o => o.field? name with
    | some v => .ok v
    | none => .error (.unresolved name none)
  | _ => .error (.unresolved name none)

end Store

/-- A function of the host: it gets the arguments and the store, and gives a value or fails. It cannot call back a
function of the program. -/
abbrev Native := List Value → EStateM Fault Store Value

namespace Native

/-- One of the arguments, or nil if there is no such. -/
def nth (args : List Value) (i : Nat) : Value :=
  (args[i]?).getD .nil

/-- Does nothing and gives a value. -/
def constant (v : Value) : Native := fun _ => return v

/-- Gives one of its arguments. -/
def argument (i : Nat) : Native := fun args => return nth args i

/-- Gives the range from its first argument up to its second, by steps of one. -/
def range : Native
  | .int lo :: .int hi :: _ => return .range lo hi
  | _ => return .nil

/-- Gives the value of a field of its first argument. -/
def readField (name : String) : Native := fun args => do
  let store ← get
  match store.field (nth args 0) name with
  | .ok v => return store.read v
  | .error fault => throw fault

/-- Gives a field of its first argument the value of its second. -/
def writeField (name : String) : Native := fun args => do
  let store ← get
  match store.field (nth args 0) name with
  | .ok v =>
    set (store.write v (nth args 1))
    return .nil
  | .error fault => throw fault

/-- Prints a text and gives a value. -/
def note (text : String) (v : Value) : Native := fun _ => do
  modify fun store => store.print text
  return v

/-- Prints its argument. -/
def print : Native := fun args =>
  match (nth args 0).display? with
  | some text => do
    modify fun store => store.print text
    return .nil
  | none => throw .unwritableInteger

end Native

end Primer
