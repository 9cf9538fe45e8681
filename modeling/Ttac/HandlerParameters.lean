import Ttac.Handlers

set_option autoImplicit false

/- What the handlers do with the parameters of a request before anything else. -/
namespace Ttac

open Interaction (Program)

/-- A key that is looked up in vain has shown that every node has a key. -/
theorem findValue_keys {list : List Node} {key : Bytes} (absent : findValue list key = .ok none)
    (other : Bytes) : ∃ value, findValue list other = .ok value := by
  induction list with
  | nil => exact ⟨none, rfl⟩
  | cons it next ih =>
      rw [findValue] at absent ⊢
      cases named : it.key with
      | none => simp [named] at absent
      | some k =>
          simp only [named] at absent ⊢
          split at absent
          · cases absent
          · split
            · exact ⟨_, rfl⟩
            · exact ih absent

namespace Handler

/-- The parameters without which a handler answers `missing parameters`. -/
def required : Handler → List String
  | .login => ["ID", "password"]
  | .signup => ["ID", "password", "name"]
  | .createGroup => ["name", "token"]
  | .groupList | .getTodolist | .getProgress => ["token"]
  | .joinGroup => ["token", "group_id", "ID"]
  | .postTodolist => ["token", "deadline", "detail"]
  | .postProgress => ["token", "number"]
  | .createChat => ["token", "group_id", "content"]
  | .getChatlist => ["token", "group_id"]
  | .getLocation => ["token", "user_ID"]
  | .postLocation => ["token", "latitude", "longitude"]

def optionals : Handler → List String
  | .getChatlist => ["latest"]
  | _ => []

/-- Every lookup of the handler comes back, the ones it needs with a value. -/
def Accepts (handler : Handler) (req : Request) : Prop :=
  (∀ key ∈ handler.required, ∃ value, findValue req.parameter (ascii key) = .ok (some value)) ∧
    ∀ key ∈ handler.optionals, ∃ value, findValue req.parameter (ascii key) = .ok value

/-- An accepted request, with the values its handler works with. -/
inductive Given (req : Request) : Handler → Prop where
  | login {ID password : Bytes}
      (IDFound : findValue req.parameter (ascii "ID") = .ok (some ID))
      (passwordFound : findValue req.parameter (ascii "password") = .ok (some password)) :
      Given req .login
  | signup {ID password name : Bytes}
      (IDFound : findValue req.parameter (ascii "ID") = .ok (some ID))
      (passwordFound : findValue req.parameter (ascii "password") = .ok (some password))
      (nameFound : findValue req.parameter (ascii "name") = .ok (some name)) : Given req .signup
  | createGroup {name token : Bytes}
      (nameFound : findValue req.parameter (ascii "name") = .ok (some name))
      (tokenFound : findValue req.parameter (ascii "token") = .ok (some token)) :
      Given req .createGroup
  | groupList {token : Bytes}
      (tokenFound : findValue req.parameter (ascii "token") = .ok (some token)) :
      Given req .groupList
  | joinGroup {token groupId ID : Bytes}
      (tokenFound : findValue req.parameter (ascii "token") = .ok (some token))
      (groupFound : findValue req.parameter (ascii "group_id") = .ok (some groupId))
      (IDFound : findValue req.parameter (ascii "ID") = .ok (some ID)) : Given req .joinGroup
  | getTodolist {token : Bytes}
      (tokenFound : findValue req.parameter (ascii "token") = .ok (some token)) :
      Given req .getTodolist
  | postTodolist {token deadline detail : Bytes}
      (tokenFound : findValue req.parameter (ascii "token") = .ok (some token))
      (deadlineFound : findValue req.parameter (ascii "deadline") = .ok (some deadline))
      (detailFound : findValue req.parameter (ascii "detail") = .ok (some detail)) :
      Given req .postTodolist
  | getProgress {token : Bytes}
      (tokenFound : findValue req.parameter (ascii "token") = .ok (some token)) :
      Given req .getProgress
  | postProgress {token number : Bytes}
      (tokenFound : findValue req.parameter (ascii "token") = .ok (some token))
      (numberFound : findValue req.parameter (ascii "number") = .ok (some number)) :
      Given req .postProgress
  | createChat {token groupId content : Bytes}
      (tokenFound : findValue req.parameter (ascii "token") = .ok (some token))
      (groupFound : findValue req.parameter (ascii "group_id") = .ok (some groupId))
      (contentFound : findValue req.parameter (ascii "content") = .ok (some content)) :
      Given req .createChat
  | getChatlist {token groupId : Bytes} {latest : Option Bytes}
      (tokenFound : findValue req.parameter (ascii "token") = .ok (some token))
      (groupFound : findValue req.parameter (ascii "group_id") = .ok (some groupId))
      (latestFound : findValue req.parameter (ascii "latest") = .ok latest) : Given req .getChatlist
  | getLocation {token userID : Bytes}
      (tokenFound : findValue req.parameter (ascii "token") = .ok (some token))
      (userFound : findValue req.parameter (ascii "user_ID") = .ok (some userID)) :
      Given req .getLocation
  | postLocation {token latitude longitude : Bytes}
      (tokenFound : findValue req.parameter (ascii "token") = .ok (some token))
      (latitudeFound : findValue req.parameter (ascii "latitude") = .ok (some latitude))
      (longitudeFound : findValue req.parameter (ascii "longitude") = .ok (some longitude)) :
      Given req .postLocation

theorem Accepts.given {handler : Handler} {req : Request} (accepts : handler.Accepts req) :
    Given req handler := by
  obtain ⟨values, optional⟩ := accepts
  cases handler with
  | login =>
      obtain ⟨ID, IDFound⟩ := values "ID" (by simp [required])
      obtain ⟨password, passwordFound⟩ := values "password" (by simp [required])
      exact .login IDFound passwordFound
  | signup =>
      obtain ⟨ID, IDFound⟩ := values "ID" (by simp [required])
      obtain ⟨password, passwordFound⟩ := values "password" (by simp [required])
      obtain ⟨name, nameFound⟩ := values "name" (by simp [required])
      exact .signup IDFound passwordFound nameFound
  | createGroup =>
      obtain ⟨name, nameFound⟩ := values "name" (by simp [required])
      obtain ⟨token, tokenFound⟩ := values "token" (by simp [required])
      exact .createGroup nameFound tokenFound
  | groupList =>
      obtain ⟨token, tokenFound⟩ := values "token" (by simp [required])
      exact .groupList tokenFound
  | joinGroup =>
      obtain ⟨token, tokenFound⟩ := values "token" (by simp [required])
      obtain ⟨groupId, groupFound⟩ := values "group_id" (by simp [required])
      obtain ⟨ID, IDFound⟩ := values "ID" (by simp [required])
      exact .joinGroup tokenFound groupFound IDFound
  | getTodolist =>
      obtain ⟨token, tokenFound⟩ := values "token" (by simp [required])
      exact .getTodolist tokenFound
  | postTodolist =>
      obtain ⟨token, tokenFound⟩ := values "token" (by simp [required])
      obtain ⟨deadline, deadlineFound⟩ := values "deadline" (by simp [required])
      obtain ⟨detail, detailFound⟩ := values "detail" (by simp [required])
      exact .postTodolist tokenFound deadlineFound detailFound
  | getProgress =>
      obtain ⟨token, tokenFound⟩ := values "token" (by simp [required])
      exact .getProgress tokenFound
  | postProgress =>
      obtain ⟨token, tokenFound⟩ := values "token" (by simp [required])
      obtain ⟨number, numberFound⟩ := values "number" (by simp [required])
      exact .postProgress tokenFound numberFound
  | createChat =>
      obtain ⟨token, tokenFound⟩ := values "token" (by simp [required])
      obtain ⟨groupId, groupFound⟩ := values "group_id" (by simp [required])
      obtain ⟨content, contentFound⟩ := values "content" (by simp [required])
      exact .createChat tokenFound groupFound contentFound
  | getChatlist =>
      obtain ⟨token, tokenFound⟩ := values "token" (by simp [required])
      obtain ⟨groupId, groupFound⟩ := values "group_id" (by simp [required])
      obtain ⟨latest, latestFound⟩ := optional "latest" (by simp [optionals])
      exact .getChatlist tokenFound groupFound latestFound
  | getLocation =>
      obtain ⟨token, tokenFound⟩ := values "token" (by simp [required])
      obtain ⟨userID, userFound⟩ := values "user_ID" (by simp [required])
      exact .getLocation tokenFound userFound
  | postLocation =>
      obtain ⟨token, tokenFound⟩ := values "token" (by simp [required])
      obtain ⟨latitude, latitudeFound⟩ := values "latitude" (by simp [required])
      obtain ⟨longitude, longitudeFound⟩ := values "longitude" (by simp [required])
      exact .postLocation tokenFound latitudeFound longitudeFound

end Handler

/-- The program only answers that parameters are missing, or runs into a node without a
key. -/
def Rejects (req : Request) (keys : List String) (program : Prog Unit) : Prop :=
  (program = missingParameters req ∧
      ∃ key ∈ keys, findValue req.parameter (ascii key) = .ok none) ∨
    (∃ fault, program = .fail fault) ∧
      ∃ key fault, findValue req.parameter (ascii key) = .error fault

section Lookups

variable {req : Request} {keys : List String}

theorem Rejects.missing {key : String} (member : key ∈ keys)
    (absent : findValue req.parameter (ascii key) = .ok none) :
    Rejects req keys (missingParameters req) := .inl ⟨rfl, key, member, absent⟩

theorem Rejects.findParameter {key : String} {next : Option Bytes → Prog Unit}
    (later : ∀ value, findValue req.parameter (ascii key) = .ok value →
      Rejects req keys (next value)) :
    Rejects req keys (Ttac.findParameter req key >>= next) := by
  unfold Ttac.findParameter
  cases found : findValue req.parameter (ascii key) with
  | ok value => exact later value found
  | error fault => exact .inr ⟨⟨fault, rfl⟩, key, fault, found⟩

/-- A lookup whose failure the handler answers at once. -/
theorem Rejects.required {key : String} {next : Option Bytes → Prog Unit} (member : key ∈ keys)
    (stops : next none = missingParameters req)
    (later : ∀ value, findValue req.parameter (ascii key) = .ok (some value) →
      Rejects req keys (next (some value))) :
    Rejects req keys (Ttac.findParameter req key >>= next) := by
  apply Rejects.findParameter
  intro value found
  cases value with
  | none => exact stops ▸ .missing member found
  | some value => exact later value found

end Lookups

namespace Handler

/-- A request the handler does not accept is rejected before the first call. -/
theorem rejects (handler : Handler) (req : Request) (incomplete : ¬ handler.Accepts req) :
    Rejects req handler.required (handler.program req) := by
  cases handler with
  | login =>
      apply Rejects.required (by simp [required]) rfl
      intro ID IDFound
      apply Rejects.required (by simp [required]) rfl
      intro password passwordFound
      exact absurd (by simp [Accepts, required, optionals, *]) incomplete
  | signup =>
      apply Rejects.required (by simp [required]) rfl
      intro ID IDFound
      apply Rejects.required (by simp [required]) rfl
      intro password passwordFound
      apply Rejects.required (by simp [required]) rfl
      intro name nameFound
      exact absurd (by simp [Accepts, required, optionals, *]) incomplete
  | createGroup =>
      apply Rejects.required (by simp [required]) rfl
      intro name nameFound
      apply Rejects.required (by simp [required]) rfl
      intro token tokenFound
      exact absurd (by simp [Accepts, required, optionals, *]) incomplete
  | groupList =>
      apply Rejects.required (by simp [required]) rfl
      intro token tokenFound
      exact absurd (by simp [Accepts, required, optionals, *]) incomplete
  | getTodolist =>
      apply Rejects.required (by simp [required]) rfl
      intro token tokenFound
      exact absurd (by simp [Accepts, required, optionals, *]) incomplete
  | getProgress =>
      apply Rejects.required (by simp [required]) rfl
      intro token tokenFound
      exact absurd (by simp [Accepts, required, optionals, *]) incomplete
  | joinGroup =>
      apply Rejects.findParameter
      intro token tokenFound
      apply Rejects.findParameter
      intro group groupFound
      apply Rejects.findParameter
      intro ID IDFound
      rcases token with _ | token
      · exact .missing (by simp [required]) tokenFound
      rcases group with _ | group
      · exact .missing (by simp [required]) groupFound
      rcases ID with _ | ID
      · exact .missing (by simp [required]) IDFound
      exact absurd (by simp [Accepts, required, optionals, *]) incomplete
  | postTodolist =>
      apply Rejects.findParameter
      intro token tokenFound
      apply Rejects.findParameter
      intro deadline deadlineFound
      apply Rejects.findParameter
      intro detail detailFound
      rcases token with _ | token
      · exact .missing (by simp [required]) tokenFound
      rcases deadline with _ | deadline
      · exact .missing (by simp [required]) deadlineFound
      rcases detail with _ | detail
      · exact .missing (by simp [required]) detailFound
      exact absurd (by simp [Accepts, required, optionals, *]) incomplete
  | postProgress =>
      apply Rejects.findParameter
      intro token tokenFound
      apply Rejects.findParameter
      intro number numberFound
      rcases token with _ | token
      · exact .missing (by simp [required]) tokenFound
      rcases number with _ | number
      · exact .missing (by simp [required]) numberFound
      exact absurd (by simp [Accepts, required, optionals, *]) incomplete
  | createChat =>
      apply Rejects.findParameter
      intro token tokenFound
      apply Rejects.findParameter
      intro group groupFound
      apply Rejects.findParameter
      intro content contentFound
      rcases token with _ | token
      · exact .missing (by simp [required]) tokenFound
      rcases group with _ | group
      · exact .missing (by simp [required]) groupFound
      rcases content with _ | content
      · exact .missing (by simp [required]) contentFound
      exact absurd (by simp [Accepts, required, optionals, *]) incomplete
  | getChatlist =>
      apply Rejects.findParameter
      intro token tokenFound
      apply Rejects.findParameter
      intro group groupFound
      apply Rejects.findParameter
      intro latest latestFound
      rcases token with _ | token
      · exact .missing (by simp [required]) tokenFound
      rcases group with _ | group
      · exact .missing (by simp [required]) groupFound
      exact absurd (by simp [Accepts, required, optionals, *]) incomplete
  | getLocation =>
      apply Rejects.findParameter
      intro token tokenFound
      apply Rejects.findParameter
      intro user userFound
      rcases token with _ | token
      · exact .missing (by simp [required]) tokenFound
      rcases user with _ | user
      · exact .missing (by simp [required]) userFound
      exact absurd (by simp [Accepts, required, optionals, *]) incomplete
  | postLocation =>
      apply Rejects.findParameter
      intro token tokenFound
      apply Rejects.findParameter
      intro latitude latitudeFound
      apply Rejects.findParameter
      intro longitude longitudeFound
      rcases token with _ | token
      · exact .missing (by simp [required]) tokenFound
      rcases latitude with _ | latitude
      · exact .missing (by simp [required]) latitudeFound
      rcases longitude with _ | longitude
      · exact .missing (by simp [required]) longitudeFound
      exact absurd (by simp [Accepts, required, optionals, *]) incomplete

end Handler

/-- The value a request has been given is the one that is found. -/
theorem forall_found {req : Request} {key : String} {value : Bytes} {P : Bytes → Prop}
    (found : findValue req.parameter (ascii key) = .ok (some value)) :
    (∀ other, findValue req.parameter (ascii key) = .ok (some other) → P other) ↔ P value := by
  constructor
  · intro all
    exact all value found
  · intro holds other same
    rw [found] at same
    cases same
    exact holds

section Faults

theorem findValue_error {list : List Node} {key : Bytes} {fault : Fault}
    (failed : findValue list key = .error fault) : fault = .nullPointer := by
  induction list with
  | nil => cases failed
  | cons it next ih =>
      rw [findValue] at failed
      cases named : it.key with
      | none =>
          simp only [named] at failed
          cases failed
          rfl
      | some k =>
          simp only [named] at failed
          split at failed
          · cases failed
          · exact ih failed

/-- The program does not fail at once but for a null pointer. -/
def FailsNull (program : Prog Unit) : Prop :=
  ∀ fault, program = .fail fault → fault = .nullPointer

theorem FailsNull.call {op : Call} {next : Answer op → Prog Unit} :
    FailsNull (.call op next) := by
  intro fault same
  cases same

theorem FailsNull.findParameter {req : Request} {key : String} {next : Option Bytes → Prog Unit}
    (later : ∀ value, FailsNull (next value)) :
    FailsNull (Ttac.findParameter req key >>= next) := by
  unfold Ttac.findParameter
  cases found : findValue req.parameter (ascii key) with
  | ok value => exact later value
  | error fault =>
      intro other same
      cases same
      exact findValue_error found

theorem FailsNull.required {req : Request} {key : String} {next : Option Bytes → Prog Unit}
    (stops : FailsNull (next none)) (later : ∀ value, FailsNull (next (some value))) :
    FailsNull (Ttac.findParameter req key >>= next) := by
  apply FailsNull.findParameter
  intro value
  cases value with
  | none => exact stops
  | some value => exact later value

/-- A handler that stops before its first call has met a node without a key. -/
theorem Handler.failsNull (handler : Handler) (req : Request) :
    FailsNull (handler.program req) := by
  cases handler with
  | login =>
      apply FailsNull.required .call
      intro ID
      apply FailsNull.required .call
      intro password
      exact .call
  | signup =>
      apply FailsNull.required .call
      intro ID
      apply FailsNull.required .call
      intro password
      apply FailsNull.required .call
      intro name
      exact .call
  | createGroup =>
      apply FailsNull.required .call
      intro name
      apply FailsNull.required .call
      intro token
      exact .call
  | groupList =>
      apply FailsNull.required .call
      intro token
      exact .call
  | getTodolist =>
      apply FailsNull.required .call
      intro token
      exact .call
  | getProgress =>
      apply FailsNull.required .call
      intro token
      exact .call
  | joinGroup =>
      apply FailsNull.findParameter
      intro token
      apply FailsNull.findParameter
      intro groupId
      apply FailsNull.findParameter
      intro ID
      cases token <;> cases groupId <;> cases ID <;> exact .call
  | postTodolist =>
      apply FailsNull.findParameter
      intro token
      apply FailsNull.findParameter
      intro deadline
      apply FailsNull.findParameter
      intro detail
      cases token <;> cases deadline <;> cases detail <;> exact .call
  | postProgress =>
      apply FailsNull.findParameter
      intro token
      apply FailsNull.findParameter
      intro number
      cases token <;> cases number <;> exact .call
  | createChat =>
      apply FailsNull.findParameter
      intro token
      apply FailsNull.findParameter
      intro groupId
      apply FailsNull.findParameter
      intro content
      cases token <;> cases groupId <;> cases content <;> exact .call
  | getChatlist =>
      apply FailsNull.findParameter
      intro token
      apply FailsNull.findParameter
      intro groupId
      apply FailsNull.findParameter
      intro latest
      cases token <;> cases groupId <;> cases latest <;> exact .call
  | getLocation =>
      apply FailsNull.findParameter
      intro token
      apply FailsNull.findParameter
      intro userId
      cases token <;> cases userId <;> exact .call
  | postLocation =>
      apply FailsNull.findParameter
      intro token
      apply FailsNull.findParameter
      intro latitude
      apply FailsNull.findParameter
      intro longitude
      cases token <;> cases latitude <;> cases longitude <;> exact .call

end Faults

end Ttac
