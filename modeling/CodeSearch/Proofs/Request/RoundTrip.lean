import CodeSearch.Proofs.Request.Arguments

/-!
# Requests survive their written forms

A request can be written with its name in front or with its arguments in front, and its arguments
may stand among others that its tool does not know.  All of these lead back to the request
(`Request.recovered`): with the name in front the arguments are read for the tool, with the
arguments in front they are kept as a value until the tool is known, and a call hands them over as
a value from the start.
-/

namespace CodeSearch.Request

open Json (EndsNumber Readable)

theorem readable_arguments {depth : Nat} (request : Request) :
    Readable (depth + 2) request.arguments := by
  refine .object fun m hm => ?_
  obtain rfl := List.mem_singleton.mp hm
  exact ArgumentKind.readable_toJson _ _

/-- A request as a JSON value with its arguments in front of its name. -/
def toJsonReversed (request : Request) : Json :=
  .object [("arguments", request.arguments), ("name", .string request.tool.name)]

/-- With its arguments in front of its name, a request is read as it was written. -/
theorem read_toJsonReversed (request : Request) (rest : List Char) :
    read (request.toJsonReversed.compactChars ++ rest) = .ok (request, rest) := by
  have harguments : ∀ rest, EndsNumber rest → Stage.readMember .start "arguments"
      (':' :: (request.arguments.compactChars ++ rest)) = .ok (.given request.arguments, rest) := by
    intro rest hrest
    have hreadable : Readable (Json.maxDepth - 1) request.arguments := request.readable_arguments
    rw [Stage.readMember, if_neg (by decide), if_pos rfl, if_neg (by decide), Json.readColon_cons]
    simp only [bind, Except.bind, hreadable.isReadBack rest hrest]
  have hname : ∀ rest, EndsNumber rest → Stage.readMember (.given request.arguments) "name"
      (':' :: ((Json.string request.tool.name).compactChars ++ rest)) =
        .ok (.whole request, rest) := by
    intro rest _
    rw [Stage.readMember, if_pos rfl, if_neg (by simp [Stage.hasName]), Json.readColon_cons,
      Json.compactChars_string]
    simp only [bind, Except.bind, Tool.read_name, ofArguments_arguments]
  exact read_object (.cons harguments (.cons hname .nil)) rest

/-- Further arguments of other names do not change a call. -/
theorem ofCall_further (request : Request) {before after : List (String × Json)}
    (hbefore : ∀ m ∈ before, m.1 ≠ request.tool.argument)
    (hafter : ∀ m ∈ after, m.1 ≠ request.tool.argument) :
    ofCall request.tool.name (.object (before ++
      (request.tool.argument, request.tool.kind.toJson request.argument) :: after)) =
        .ok request := by
  obtain ⟨tool, argument⟩ := request
  have hvalue : (Json.object (before ++
      (tool.argument, tool.kind.toJson argument) :: after)).canonical.get? tool.argument =
        some (tool.kind.toJson argument) := by
    have hlast : (Json.object after.reverse).get? tool.argument = none :=
      Json.get?_eq_none fun m hm => hafter m (List.mem_reverse.mp hm)
    rw [Json.canonical_object, Json.get?_keptMembers, List.reverse_append, List.reverse_cons,
      List.append_assoc, Json.get?_append, hlast, List.singleton_append, Json.get?_cons, if_pos rfl]
    exact congrArg some (ArgumentKind.canonical_toJson tool.kind argument)
  exact ofCall_eq_ok_iff.mpr ⟨_, argument, hvalue, ArgumentKind.ofJson_toJson tool.kind argument, rfl⟩

/-- **Requests survive their written forms.**  A request is read from its text, also with its
arguments in front of its name, and is called by the name of its tool and its arguments, also among
any others. -/
theorem recovered (request : Request) :
    ofText request.toJson.compact = .ok request ∧
    ofText request.toJsonReversed.compact = .ok request ∧
    ∀ before after : List (String × Json), (∀ m ∈ before, m.1 ≠ request.tool.argument) →
      (∀ m ∈ after, m.1 ≠ request.tool.argument) →
        ofCall request.tool.name (.object (before ++
          (request.tool.argument, request.tool.kind.toJson request.argument) :: after)) =
            .ok request :=
  ⟨request.ofText_compact, ofText_of_read request.read_toJsonReversed,
    fun _ _ hbefore hafter => request.ofCall_further hbefore hafter⟩

/-- A request whose argument needs escapes. -/
def quotedSample : Request := ⟨.findFilesByContent, "say \"\\\n\x01\" 😀"⟩

theorem recovered_quotedSample :
    (∀ m ∈ [("path", Json.string "/repo")], m.1 ≠ quotedSample.tool.argument) ∧
    (∀ m ∈ [("Pattern", Json.array [.null])], m.1 ≠ quotedSample.tool.argument) ∧
    ofText quotedSample.toJson.compact = .ok quotedSample ∧
    ofText quotedSample.toJsonReversed.compact = .ok quotedSample ∧
    ofCall "find_files_by_content" (.object [("path", .string "/repo"),
      ("pattern", .string "say \"\\\n\x01\" 😀"), ("Pattern", .array [.null])]) =
        .ok quotedSample := by
  obtain ⟨htext, hreversed, hcall⟩ := recovered quotedSample
  have hbefore : ∀ m ∈ [("path", Json.string "/repo")], m.1 ≠ quotedSample.tool.argument := by
    simp [quotedSample, Tool.argument]
  have hafter : ∀ m ∈ [("Pattern", Json.array [.null])], m.1 ≠ quotedSample.tool.argument := by
    simp [quotedSample, Tool.argument]
  exact ⟨hbefore, hafter, htext, hreversed, hcall _ _ hbefore hafter⟩

end CodeSearch.Request
