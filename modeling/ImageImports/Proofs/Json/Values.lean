import ImageImports.Proofs.Json.Spelling

/-!
# Reading values back

From the tokens of a value its draft is read, and what comes after them is left. Inside of open
containers the value takes its place in the innermost one. So the draft of a text that writes a
value is the draft of this value, and nothing is left of the text.

## Main definitions

* `Json.Draft.resume`: what is read after a value took its place.

## Main results

* `Json.Draft.build_tokens`: reading goes on after the tokens of a value.
* `Json.Value.IsWrittenAs.ofTokens_eq`: the draft of a text that writes a value.
-/

namespace ImageImports.Json.Draft

/-- What is read after a value took its place in the open containers. -/
def resume (v : Draft) (stack : List Frame) (rest : List Token) : Draft × List Token :=
  match stack with
  | [] => (v, rest)
  | top :: below => build (top.attach v :: below) .separator rest

section Steps

variable {stack below : List Frame} {phase : Phase} {token : Token}

theorem build_of_on {stack' : List Frame} {phase' : Phase}
    (h : move stack phase token = .on stack' phase') (rest : List Token) :
    build stack phase (token :: rest) = build stack' phase' rest := by
  rw [build, h]

theorem build_of_place {v : Draft} (h : move stack phase token = place v below)
    (rest : List Token) : build stack phase (token :: rest) = resume v below rest := by
  rw [build, h]
  cases below <;> rfl

end Steps

theorem build_firstElement (v : Value) (stack : List Frame) (rest : List Token) :
    build stack .firstElement (v.tokens ++ rest) = build stack .value (v.tokens ++ rest) := by
  cases v <;> rfl

mutual

/-- A value is read from its tokens and takes its place in the open containers. -/
theorem build_tokens : (v : Value) → (stack : List Frame) → (rest : List Token) →
    build stack .value (v.tokens ++ rest) = resume v.draft stack rest
  | .null, _, rest => build_of_place rfl rest
  | .bool _, _, rest => build_of_place rfl rest
  | .number _, _, rest => build_of_place rfl rest
  | .string _, _, rest => build_of_place rfl rest
  | .array [], _, _ => (build_of_on rfl _).trans (build_of_place rfl _)
  | .array (v :: elements), stack, rest => by
    rw [Value.tokens, List.cons_append, build_of_on (by rfl), Value.firstElement, List.append_assoc,
      build_firstElement, build_tokens v]
    exact build_nextElement elements [v.draft] stack rest
  | .object [], _, _ => (build_of_on rfl _).trans (build_of_place rfl _)
  | .object ((name, v) :: members), stack, rest => by
    rw [Value.tokens, List.cons_append, build_of_on (by rfl), Value.firstMember, List.cons_append,
      List.cons_append, List.append_assoc, build_of_on (by rfl), build_of_on (by rfl),
      build_tokens v]
    exact build_nextMember members [(.string (name.map Mark.piece), v.draft)] stack rest
  termination_by structural v => v

/-- The elements of an array are read after those that were read before, up to its end. -/
theorem build_nextElement : (elements : List Value) → (done : List Draft) →
    (below : List Frame) → (rest : List Token) →
    build (.array done :: below) .separator (Value.nextElement elements ++ rest) =
      resume (.array (done.reverse ++ Value.draftElements elements) true) below rest
  | [], done, below, rest => by
    rw [Value.draftElements, List.append_nil]
    exact build_of_place rfl rest
  | v :: elements, done, below, rest => by
    rw [Value.nextElement, List.cons_append, List.append_assoc, build_of_on (by rfl),
      build_tokens v]
    have hrest := build_nextElement elements (v.draft :: done) below rest
    rwa [List.reverse_cons, List.append_assoc] at hrest
  termination_by structural elements => elements

/-- The members of an object are read after those that were read before, up to its end. -/
theorem build_nextMember : (members : List (List Mark × Value)) → (done : List (Draft × Draft)) →
    (below : List Frame) → (rest : List Token) →
    build (.object done :: below) .separator (Value.nextMember members ++ rest) =
      resume (.object (done.reverse ++ Value.draftMembers members) true) below rest
  | [], done, below, rest => by
    rw [Value.draftMembers, List.append_nil]
    exact build_of_place rfl rest
  | (name, v) :: members, done, below, rest => by
    rw [Value.nextMember, List.cons_append, List.cons_append, List.cons_append, List.append_assoc,
      build_of_on (by rfl), build_of_on (by rfl), build_of_on (by rfl), build_tokens v]
    have hrest := build_nextMember members ((.string (name.map Mark.piece), v.draft) :: done)
      below rest
    rwa [List.reverse_cons, List.append_assoc] at hrest
  termination_by structural members => members

end

end ImageImports.Json.Draft

namespace ImageImports.Json

/-- A text that writes a value has the draft of this value, and nothing is left of it. -/
theorem Value.IsWrittenAs.ofTokens_eq {v : Value} {text : String} (h : v.IsWrittenAs text) :
    Draft.ofTokens (Json.tokens text) = (v.draft, []) := by
  have hread := Draft.build_tokens v [] []
  rw [List.append_nil] at hread
  rw [Spells.tokens_eq h, Draft.ofTokens, hread]
  rfl

end ImageImports.Json
