import Mathlib.Data.List.Induction
import NetImport.Proofs.Steps

/-!
# Arguments in a list

An operator lists its arguments in any order and may give a name several times; the last argument
of the name counts. This file reads arguments off that list, without a table of names, and shows
that the table reads the same.
-/

namespace NetImport.Descriptor

/-- The last argument of a name in a list of arguments. -/
def Argument.last? (arguments : List Argument) (name : String) : Option Argument :=
  (arguments.filter fun argument => argument.name = .text name).getLast?

/-- The integer of the last argument of a name; where there is none, the default. -/
def Argument.integerOf? (arguments : List Argument) (name : String) (default? : Option Int) :
    Option Int :=
  match Argument.last? arguments name with
  | some argument => argument.int?
  | none => default?

/-- The text of the last argument of a name; where there is none, the default. -/
def Argument.textOf? (arguments : List Argument) (name : String) (default? : Option String) :
    Option String :=
  match Argument.last? arguments name with
  | some argument => argument.bytes?.bind Text.decodeUtf8?
  | none => default?

/-- Where an argument gives an integer, a default does not matter. -/
theorem Argument.integerOf?_of_given {arguments : List Argument} {name : String} {value : Int}
    (given : integerOf? arguments name none = some value) (default? : Option Int) :
    integerOf? arguments name default? = some value := by
  unfold integerOf? at given ⊢
  split at given
  · exact given
  · cases given

namespace Arguments

variable {operatorType : String} {arguments : List Argument} {name : String}

theorem get?_ofList :
    (ofList operatorType arguments).table.get? (.text name) = Argument.last? arguments name := by
  induction arguments using List.reverseRecOn with
  | nil => rfl
  | append_singleton arguments last hypothesis =>
      simp only [ofList, Argument.last?, List.foldl_append, List.foldl_cons, List.foldl_nil,
        Registry.get?_bind, List.filter_append] at hypothesis ⊢
      by_cases here : last.name = .text name
      · simp [here]
      · simp [here, Ne.symm here, hypothesis]

/-- Only a name that no argument has is absent. -/
theorem contains_ofList_eq_false :
    (ofList operatorType arguments).contains name = false ↔
      ∀ argument ∈ arguments, argument.name ≠ .text name := by
  rw [contains, Registry.contains, get?_ofList, Option.isSome_eq_false_iff,
    Option.isNone_iff_eq_none, Argument.last?, List.getLast?_eq_none_iff, List.filter_eq_nil_iff]
  simp

theorem expect_eq_ok {α : Type} {table : Arguments} {variant : Variant} {found? : Option α}
    {value : α} : table.expect name variant found? = .ok value ↔ found? = some value := by
  cases found? with
  | none => simp [expect]
  | some found => simp [expect]

theorem int_ofList_eq_ok {default? : Option Int} {value : Int} :
    (ofList operatorType arguments).int name default? = .ok value ↔
      Argument.integerOf? arguments name default? = some value := by
  simp only [int, read, get?_ofList, Argument.integerOf?]
  cases Argument.last? arguments name with
  | some argument => exact expect_eq_ok
  | none => cases default? with
    | none => simp
    | some default => simp

theorem str_ofList_eq_ok {default? : Option String} {value : String} :
    (ofList operatorType arguments).str name default? = .ok value ↔
      Argument.textOf? arguments name default? = some value := by
  simp only [str, read, get?_ofList, Argument.textOf?]
  cases Argument.last? arguments name with
  | some argument =>
      dsimp only
      cases argument.bytes? with
      | none => simp [expect, bind, Except.bind]
      | some bytes =>
          simp only [expect, bind, Except.bind, Option.bind_some]
          cases Text.decodeUtf8? bytes with
          | none => simp
          | some text => simp
  | none => cases default? with
    | none => simp
    | some default => simp

end Arguments

end NetImport.Descriptor
