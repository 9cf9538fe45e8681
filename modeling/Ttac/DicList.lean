import Ttac.CString

set_option autoImplicit false

/- `list.c`. The chain from `head` is a list of nodes in insertion order. -/
namespace Ttac

/-- A key may be NULL: a multipart part without a name is stored with such a key. -/
structure Node where
  key : Option Bytes
  value : Bytes
  deriving DecidableEq, Repr

def addData (list : List Node) (key : Option Bytes) (value : Bytes) : List Node :=
  list ++ [⟨key, value⟩]

/-- `strcmp` reads through the key of every node it passes. -/
def findValue : List Node → Bytes → Except Fault (Option Bytes)
  | [], _ => .ok none
  | it :: next, key =>
    match it.key with
    | none => .error .nullPointer
    | some k => if k = key then .ok (some it.value) else findValue next key

/-- An entry with a key and a value. -/
def Node.entry (pair : Bytes × Bytes) : Node := ⟨some pair.1, pair.2⟩

theorem findValue_entries (pairs : List (Bytes × Bytes)) (key : Bytes) :
    findValue (pairs.map Node.entry) key =
      .ok ((pairs.find? fun pair => pair.1 = key).map Prod.snd) := by
  induction pairs with
  | nil => rfl
  | cons pair rest ih =>
      rw [List.map_cons, findValue, List.find?_cons]
      by_cases same : pair.1 = key
      · simp only [Node.entry, same, ↓reduceIte, decide_true, Option.map_some]
      · simp only [Node.entry, same, ↓reduceIte, decide_false]
        exact ih

theorem findValue_append (first second : List Node) (key : Bytes)
    (absent : findValue first key = .ok none) :
    findValue (first ++ second) key = findValue second key := by
  induction first with
  | nil => rfl
  | cons it next ih =>
      rw [List.cons_append, findValue]
      rw [findValue] at absent
      cases named : it.key with
      | none => simp [named] at absent
      | some k =>
          simp only [named] at absent ⊢
          split at absent
          · cases absent
          · rename_i differs
            rw [if_neg differs]
            exact ih absent

end Ttac
