import Mathlib.Data.List.AList
import Mathlib.Data.List.Sort
import ZatoCli.Python.Str

namespace ZatoCli

/-- A value stored in an `argparse` namespace, seen through the two protocols the CLI applies
to it: `'{}'.format(value)` and `if value:`. `obj` is any other object, given by what its
`__format__` and `__nonzero__` return. -/
inductive PyObj
  | none
  | bool (b : Bool)
  | int (n : Int)
  | str (s : Str)
  | obj (text : Str) (truth : Bool)
  deriving DecidableEq, Repr

namespace PyObj

def format : PyObj → Str
  | none => "None".toList
  | bool true => "True".toList
  | bool false => "False".toList
  | int n => (toString n).toList
  | str s => s
  | obj text _ => text

def truthy : PyObj → Bool
  | none => false
  | bool b => b
  | int n => n ≠ 0
  | str s => !s.isEmpty
  | obj _ truth => truth

@[simp] theorem truthy_str (s : Str) : (str s).truthy = !s.isEmpty := rfl

@[simp] theorem format_str (s : Str) : (str s).format = s := rfl

end PyObj

/-- The exceptions the modelled code raises, each with the data its message is built from:
`unpackError` is the `ValueError` of a tuple assignment, `recursionError` the `RuntimeError` of a
full stack, `noReturnCode` and `commandFailed` the two `Exception`s of
`_execute_zdaemon_command`, and `exit` a `sys.exit(code)` after logging `msg`.
`formatNotModelled` is not Python's: it marks a replacement field whose value the model does not
compute (see `renderField`). -/
inductive PyError
  | attributeError (name : Str)
  | keyError (key : Str)
  | indexError
  | valueError (msg : Str)
  | nameError (name : Str)
  | recursionError
  | unpackError (line : Str)
  | eofError
  | noReturnCode (commandList : List Str)
  | commandFailed (commandList : List Str) (returncode : Int) (stdout stderr : Str)
  | exit (code : Nat) (msg : Str)
  | formatNotModelled (field : Str)
  deriving DecidableEq, Repr

instance exceptDecidableEq {ε α : Type} [DecidableEq ε] [DecidableEq α] :
    DecidableEq (Except ε α) := fun x y =>
  match x, y with
  | .ok a, .ok b => decidable_of_iff (a = b) (by simp)
  | .error a, .error b => decidable_of_iff (a = b) (by simp)
  | .ok _, .error _ => isFalse fun h => Except.noConfusion h
  | .error _, .ok _ => isFalse fun h => Except.noConfusion h

@[simp] theorem ok_bind {ε α β : Type} (a : α) (f : α → Except ε β) :
    (Except.ok a >>= f) = f a :=
  rfl

@[simp] theorem error_bind {ε α β : Type} (e : ε) (f : α → Except ε β) :
    (Except.error e >>= f) = Except.error e :=
  rfl

theorem bind_eq_ok {ε α β : Type} {x : Except ε α} {f : α → Except ε β} {b : β} :
    (x >>= f) = .ok b ↔ ∃ a, x = .ok a ∧ f a = .ok b := by
  cases x <;> simp

theorem exists_bind_eq_error {ε α β : Type} {x : Except ε α} {f : α → Except ε β}
    (h : ∀ a, x = .ok a → ∃ e, f a = .error e) : ∃ e, (x >>= f) = .error e := by
  cases x with
  | error e => exact ⟨e, rfl⟩
  | ok a => exact h a rfl

theorem map_eq_ok {ε α β : Type} {x : Except ε α} {f : α → β} {b : β} :
    (f <$> x) = .ok b ↔ ∃ a, x = .ok a ∧ f a = b := by
  cases x <;> simp [Functor.map, Except.map]

/-- `l[i]`, which raises `IndexError` past the end. -/
def pyIndex {α : Type} (l : List α) (i : Nat) : Except PyError α :=
  match l.get? i with
  | some x => .ok x
  | none => .error .indexError

/-- `s.split(sep)`, which raises `ValueError` on an empty separator. -/
def strSplit (sep s : Str) : Except PyError (List Str) :=
  if sep = [] then .error (.valueError "empty separator".toList) else .ok (splitFrom sep 0 s)

abbrev Namespace := AList fun _ : Str => PyObj

/-- `args.name`, which raises `AttributeError` when the attribute is missing. -/
def Namespace.getattr (args : Namespace) (name : Str) : Except PyError PyObj :=
  match args.lookup name with
  | some v => .ok v
  | none => .error (.attributeError name)

/-- `getattr(args, name, None)` tested with `if`: a missing attribute reads as `None`. -/
def Namespace.truthyAt (args : Namespace) (name : Str) : Bool :=
  (args.lookup name).elim false PyObj.truthy

theorem Namespace.truthyAt_eq_true {args : Namespace} {name : Str} :
    args.truthyAt name = true ↔ ∃ v, args.lookup name = some v ∧ v.truthy := by
  unfold Namespace.truthyAt
  cases args.lookup name <;> simp

/-- Python 2's `<=` on `str`: lexicographic by character code. -/
def strLe : Str → Str → Bool
  | [], _ => true
  | _ :: _, [] => false
  | a :: as, b :: bs => a < b || (a = b && strLe as bs)

/-- `Namespace._get_kwargs`: `sorted(self.__dict__.items())`; the names are distinct, so the
pairs are ordered by name. -/
def getKwargs (args : Namespace) : List (Str × PyObj) :=
  (args.entries.map fun e => (e.1, e.2)).insertionSort fun a b => strLe a.1 b.1

theorem mem_getKwargs {args : Namespace} {a : Str} {v : PyObj} :
    (a, v) ∈ getKwargs args ↔ args.lookup a = some v := by
  rw [getKwargs, (List.perm_insertionSort _ _).mem_iff, ← Option.mem_def, AList.mem_lookup_iff,
    List.mem_map]
  constructor
  · rintro ⟨⟨a', v'⟩, he, h⟩
    cases h
    exact he
  · exact fun h => ⟨_, h, rfl⟩

end ZatoCli
