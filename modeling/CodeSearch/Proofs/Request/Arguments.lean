import CodeSearch.Proofs.Request

/-!
# Requests from arguments

A tool looks for its own argument among those that it is given and passes over all others, wherever
they stand and whatever they hold (`Request.ofCall_eq_ok_iff`).
-/

namespace CodeSearch.Request

/-- Arguments that a tool does not know are passed over. -/
theorem ofMembers_of_ne {tool : Tool} (found : Option tool.kind.Value)
    {members : List (String × Json)} (h : ∀ m ∈ members, m.1 ≠ tool.argument) :
    ofMembers tool found members = ofArgument tool found := by
  induction members with
  | nil => rfl
  | cons m members ih =>
    rw [ofMembers, if_neg (h m List.mem_cons_self)]
    exact ih fun m hm => h m (List.mem_cons_of_mem _ hm)

/-- Among members with one key each, a tool takes the one with the name of its argument. -/
theorem ofMembers_none {tool : Tool} {members : List (String × Json)}
    (h : (members.map (·.1)).Nodup) :
    ofMembers tool none members = match (Json.object members).get? tool.argument with
      | some value => (tool.kind.ofJson value).map (⟨tool, ·⟩)
      | none => .error (.missingField tool.argument) := by
  induction members with
  | nil => rfl
  | cons m members ih =>
    obtain ⟨hfirst, hmembers⟩ := List.nodup_cons.mp h
    rw [ofMembers, Json.get?_cons]
    split
    case isTrue hkey =>
      have hothers : ∀ n ∈ members, n.1 ≠ tool.argument := by
        rintro n hn heq
        exact hfirst (List.mem_map.mpr ⟨n, hn, heq.trans hkey.symm⟩)
      rw [if_neg (by simp)]
      dsimp only
      cases hvalue : tool.kind.ofJson m.2 with
      | error e => rfl
      | ok argument => exact ofMembers_of_ne (some argument) hothers
    case isFalse hkey => exact ih hmembers

theorem ofCall_name (tool : Tool) (arguments : Json) :
    ofCall tool.name arguments = ofArguments tool arguments.canonical := by
  rw [ofCall, Tool.ofName, Tool.ofName?_name]
  rfl

/-- A tool is called with success by arguments in which its own has a value of its kind. -/
theorem ofCall_eq_ok_iff {tool : Tool} {arguments : Json} {request : Request} :
    ofCall tool.name arguments = .ok request ↔
      ∃ value argument, arguments.canonical.get? tool.argument = some value ∧
        tool.kind.ofJson value = .ok argument ∧ request = ⟨tool, argument⟩ := by
  rw [ofCall_name]
  cases arguments with
  | object members =>
    rw [Json.canonical_object, ofArguments, ofMembers_none (Json.nodup_keys_keptMembers members)]
    cases (Json.object (Json.keptMembers members)).get? tool.argument with
    | none => simp
    | some value =>
      cases hvalue : tool.kind.ofJson value with
      | error e => simp [hvalue, Except.map]
      | ok argument => simp [hvalue, Except.map, eq_comm]
  | _ => simp [Json.canonical, ofArguments, Json.get?]

end CodeSearch.Request
