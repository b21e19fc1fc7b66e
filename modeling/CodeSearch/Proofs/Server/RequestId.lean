import CodeSearch.Proofs.Json.Canonical
import CodeSearch.Proofs.Json.Skipping
import CodeSearch.Proofs.Server.Call

/-!
# The id of a request

A call is read member by member, without the value that its line stands for.  `requestId` says what the
id of a request is in terms of that value.  A line that is both a JSON text and a call is read with just
this id, whatever other members it has and in whatever order they stand (`Call.id_eq_requestId`).
-/

namespace CodeSearch.Server

open Json (exists_of_bind_eq_ok)

/-- The id of a request as a JSON value: the member `id` of an object, or the second item of a list;
`null` if there is none. -/
def requestId : Json → Json
  | .object members => (((Json.object members).get? "id").getD .null).canonical
  | .array items => (items.getD 1 .null).canonical
  | _ => .null

namespace Call

/-- What is read as a text is a string. -/
theorem rest_eq_of_readText {expected : String} {text : List Char} {r : String × List Char}
    {q : Json × List Char} {depth : Nat} (h : Json.readText expected text = .ok r)
    (hvalue : Json.readValue depth text = .ok q) : r.2 = q.2 := by
  rw [Json.readText] at h
  split at h
  case h_1 => simp at h
  case h_2 behind htext =>
    rw [← Json.readValue_skipBlanks, htext, Json.readValue_quote, h] at hvalue
    exact (Prod.mk.inj (Except.ok.inj hvalue)).2
  case h_3 => simp at h

/-! ## Objects -/

/-- The members of a call and the members of a value that are read from one text: the id of the call is
the member `id`. -/
def HasIdOf (found : Members) (members : List (String × Json)) : Prop :=
  found.id = ((Json.object members.reverse).get? "id").map kept

theorem HasIdOf.of_ne {found next : Members} {members : List (String × Json)}
    (h : HasIdOf found members) {key : String} (hkey : key ≠ "id") (hid : next.id = found.id)
    (value : Json) : HasIdOf next ((key, value) :: members) := by
  rw [HasIdOf, hid, h, List.reverse_cons, Json.get?_append, Json.get?_cons, if_neg hkey]
  exact congrArg (Option.map kept) Option.or_none.symm

/-- The first member `id` is the id of the call. -/
theorem HasIdOf.of_id {found : Members} {members : List (String × Json)} (h : HasIdOf found members)
    (hfirst : found.id = none) (value : Json) :
    HasIdOf { found with id := some (kept value) } (("id", value) :: members) := by
  rw [HasIdOf, hfirst] at h
  have hnone : (Json.object members.reverse).get? "id" = none := Option.map_eq_none_iff.mp h.symm
  rw [HasIdOf, List.reverse_cons, Json.get?_append, hnone, Json.get?_cons, if_pos rfl]
  rfl

/-- Reading a member of a call keeps in step with reading a member of a value. -/
theorem hasIdOf_of_readMember (found : Members) (members : List (String × Json)) (key : String)
    (text : List Char) (r : Members × List Char) (q : List (String × Json) × List Char)
    (h : HasIdOf found members) (hread : readMember found key text = .ok r)
    (hfield : Json.readField (Json.maxDepth - 1) members key text = .ok q) :
    r.2 = q.2 ∧ HasIdOf r.1 q.1 := by
  obtain ⟨behind, hcolon, hfield⟩ := exists_of_bind_eq_ok hfield
  obtain ⟨⟨value, rest⟩, hvalue, heq⟩ := exists_of_bind_eq_ok hfield
  obtain rfl := Except.ok.inj heq
  obtain ⟨place, hplace, hcases⟩ := readMember_cases hread
  rw [hcolon] at hplace
  obtain rfl := Except.ok.inj hplace
  rcases hcases with ⟨rfl, -, version, htext, hfound⟩ | ⟨rfl, hfirst, id, hid, hfound⟩ |
    ⟨rfl, -, method, htext, hfound⟩ | ⟨rfl, -, params, hparams, hfound⟩ | ⟨hkey, hskip, hfound⟩
  · exact ⟨rest_eq_of_readText htext hvalue, h.of_ne (by decide) (by rw [hfound]) value⟩
  · rw [readValue_of_readValue hvalue] at hid
    obtain ⟨rfl, hrest⟩ := Prod.mk.inj (Except.ok.inj hid)
    exact ⟨hrest.symm, hfound ▸ h.of_id hfirst value⟩
  · exact ⟨rest_eq_of_readText htext hvalue, h.of_ne (by decide) (by rw [hfound]) value⟩
  · rw [readValue_of_readValue hvalue] at hparams
    obtain ⟨rfl, hrest⟩ := Prod.mk.inj (Except.ok.inj hparams)
    exact ⟨hrest.symm, h.of_ne (by decide) (by rw [hfound]) value⟩
  · rw [Json.skipValue_of_readValue hvalue] at hskip
    exact ⟨(Except.ok.inj hskip).symm, h.of_ne (by simp at hkey; exact hkey.2.1) (by rw [hfound]) value⟩

/-- The id of the call is the last member `id`, which is the only one. -/
theorem HasIdOf.getD_eq {found : Members} {members : List (String × Json)} {call : Call}
    (hid : HasIdOf found members) (h : ofMembers found = .ok call) :
    call.id.getD .null = requestId (.object members.reverse) := by
  rw [id_of_ofMembers h, hid, requestId]
  cases (Json.object members.reverse).get? "id" with
  | none => rfl
  | some value => exact kept_getD value

/-! ## Lists -/

theorem nextItem_of_itemAt {position : Nat} {text place : List Char}
    (h : itemAt position text = .ok place) :
    Json.nextItem (position = 0) text = .ok (some place) := by
  obtain ⟨found, hnext, hfound⟩ := exists_of_bind_eq_ok h
  cases found with
  | none => simp at hfound
  | some next =>
    obtain rfl := Except.ok.inj hfound
    exact hnext

/-- The second item of a list is the id of the call. -/
theorem id_of_readList {steps : Nat} {text : List Char} {r : Call × List Char}
    {q : Json × List Char} (h : readList text = .ok r)
    (hitems : Json.readItems (Json.readValue (Json.maxDepth - 1)) steps [] text = .ok q) :
    r.1.id.getD .null = requestId q.1 := by
  obtain ⟨first, second, behind, rest, hfirst, hversion, hsecond, hid⟩ := exists_of_readList h
  -- the same two items are read from the line as a value
  obtain ⟨firstValue, firstRest, steps, hfirstValue, hitems⟩ :=
    Json.readItems_of_nextItem hitems (nextItem_of_itemAt hfirst)
  obtain rfl : behind = firstRest := rest_eq_of_readText hversion hfirstValue
  obtain ⟨value, valueRest, steps, hvalue, hitems⟩ :=
    Json.readItems_of_nextItem hitems (nextItem_of_itemAt hsecond)
  rw [readValue_of_readValue hvalue] at hid
  obtain ⟨hid, -⟩ := Prod.mk.inj (Except.ok.inj hid)
  obtain ⟨others, hq⟩ := Json.exists_append_of_readItems hitems
  rw [hq, ← hid]
  exact kept_getD value

/-! ## Lines -/

/-- A line that is both a JSON text and a call is read with the id of the request. -/
theorem id_eq_requestId {line : String} {value : Json} {call : Call}
    (hvalue : Json.parse line = .ok value) (hcall : ofText line = .ok call) :
    call.id.getD .null = requestId value := by
  obtain ⟨_, hvalue⟩ := Json.exists_of_atEnd hvalue
  obtain ⟨_, hcall⟩ := Json.exists_of_atEnd hcall
  rw [← Json.readValue_skipBlanks] at hvalue
  rw [read] at hcall
  split at hcall
  case h_1 => simp at hcall
  case h_2 behind htext =>
    rw [htext, Json.maxDepth, Json.readValue_bracket] at hvalue
    exact id_of_readList hcall hvalue
  case h_3 behind htext =>
    rw [htext, Json.maxDepth, Json.readValue_brace] at hvalue
    obtain ⟨⟨found, _⟩, hfound, hcall⟩ := exists_of_bind_eq_ok hcall
    obtain ⟨⟨members, _⟩, hmembers, hvalue⟩ := exists_of_bind_eq_ok hvalue
    obtain ⟨made, hmade, hcall⟩ := exists_of_bind_eq_ok hcall
    obtain ⟨rfl, -⟩ := Prod.mk.inj (Except.ok.inj hcall)
    obtain ⟨rfl, -⟩ := Prod.mk.inj (Except.ok.inj hvalue)
    have hstart : HasIdOf {} [] := rfl
    have hid : HasIdOf found members :=
      Json.related_of_foldMembers hasIdOf_of_readMember hstart hfound hmembers
    exact hid.getD_eq hmade
  case h_4 => simp at hcall

end Call

end CodeSearch.Server
