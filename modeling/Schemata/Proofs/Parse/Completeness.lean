import Schemata.Proofs.Reading.Schema

/-! # What is derived is accepted

Every text that is derived from the grammar is read as the statements it is derived for, in whatever way
its keywords, names and literals are spelt and whatever layout stands between them, as long as calls are
nested below the limit.
-/

namespace Schemata

open Layout Reader

/-- The run on the statements of a text, from the end of its leading layout. -/
theorem statements_of_derives {limit : Nat} {found : List Statement} {tokens : List Token} {body source : Text}
    {s : State} (phrase : Grammar.schema limit found tokens) (deep : limit ≤ nestingLimit)
    (laid : Laid tokens body []) (here : At source s body) :
    ∃ t, statements source s = (.ok found, t) := by
  have enough : body.length < source.length + 1 := by
    have := here.inside
    omega
  have whole : statements source s = statementsWithin statementKinds (source.length + 1) source s := rfl
  rw [whole]
  cases found with
  | nil =>
    obtain rfl : tokens = [] := phrase
    have empty := laid.eq_of_nil
    have ended := here.inside
    rw [empty, List.length_nil] at ended
    exact ⟨s, by rw [statementsWithin_succ, if_pos (by omega)]⟩
  | cons first found =>
    have filled : tokens ≠ [] := by
      obtain ⟨front, back, firstPhrase, _, rfl⟩ := phrase
      simp [ne_nil_of_statement firstPhrase deep]
    obtain ⟨front, last, rfl⟩ := exists_last_of_ne_nil filled
    obtain ⟨w, frontLaid, single⟩ := laid.split
    cases single with
    | @cons _ _ chunk gap _ _ spelt between past =>
      rw [past.eq_of_nil] at spelt between frontLaid
      obtain ⟨stop, new, leaves⟩ := schema_leaves phrase deep spelt frontLaid here enough
      have measured := length?_gap_append between settled_nil
      obtain ⟨s', rounds, cursor, _, left, run⟩ := leaves.closed _ measured
      have width := leaves.inside
      rw [List.append_nil] at left width
      obtain ⟨rounds, rfl⟩ : ∃ n, rounds = n + 1 := ⟨rounds - 1, by omega⟩
      have ended : source.length ≤ s'.cursor.offset := by
        rw [cursor]
        simp only
        omega
      refine ⟨s', ?_⟩
      rw [run, map_eq_pure_bind, bind_apply, statementsWithin_succ, if_pos ended]
      simp

theorem fromStart_of_derives {limit : Nat} {source : Text} {found : List Statement}
    (derives : Grammar.Derives limit found source) (deep : limit ≤ nestingLimit) :
    ∃ t, fromStart statements source State.start = (.ok found, t) := by
  obtain ⟨tokens, gap, body, phrase, rfl, between, laid⟩ := derives
  have measured := length?_gap_append between (laid.settled settled_nil)
  have here : At (gap ++ body) (begun gap.length) body :=
    ⟨List.drop_left, by rw [List.length_append]; rfl⟩
  obtain ⟨t, run⟩ := statements_of_derives phrase deep laid here
  exact ⟨t, by rw [fromStart_of_gap measured, run]⟩

theorem parse_of_derives {limit : Nat} {name source : Text} {found : List Statement}
    (derives : Grammar.Derives limit found source) (deep : limit ≤ nestingLimit) :
    (parse name source).result = .ok found :=
  parse_eq_ok_iff.2 (fromStart_of_derives derives deep)

/-- A derivation with keywords in mixed case, a quoted name and all kinds of layout. -/
private theorem derives_mixed : Grammar.Derives 1 [.createEnum "m" []]
    "/* a */cReate\ttype\"m\"as// b\nENUM( );// c" := by
  have blank {c : CodePoint} (white : c.isBlank = true) (rest : Text) : Gap [c] rest :=
    (Closed.blank white .nil).gap rest
  have nothing (rest : Text) : Gap [] rest := Closed.nil.gap rest
  have comment : Closed (text "// b\n") := @Closed.line (text " b") [] (by decide) .nil
  have open' : OpenLine (text "// c") := ⟨[], " c", rfl, .nil, by decide⟩
  have laid : Laid [.keyword "CREATE", .keyword "TYPE", .name "m", .keyword "AS", .keyword "ENUM",
      .sign "(", .sign ")", .sign ";"]
      (text "cReate" ++ (text "\t" ++ (text "type" ++ ([] ++ (text "\"m\"" ++ ([] ++ (text "as" ++
        (text "// b\n" ++ (text "ENUM" ++ ([] ++ (text "(" ++ (text " " ++ (text ")" ++ ([] ++
          (text ";" ++ (text "// c" ++ [])))))))))))))))) [] := by
    refine .cons (.keyword (by decide) rfl (by decide) rfl) (blank (by decide) _) ?_
    refine .cons (.keyword (by decide) rfl (by decide) rfl) (nothing _) ?_
    refine .cons (.quotedName (by decide) (by decide)) (nothing _) ?_
    refine .cons (.keyword (by decide) rfl (by decide) rfl) (comment.gap _) ?_
    refine .cons (.keyword (by decide) rfl (by decide) rfl) (nothing _) ?_
    refine .cons (.sign (by decide) rfl) (blank (by decide) _) ?_
    refine .cons (.sign (by decide) rfl) (nothing _) ?_
    exact .cons (.sign (by decide) rfl) (.inr ⟨rfl, open'⟩) .nil
  have lead : Closed (text "/* a */") := @Closed.block (text " a ") [] (by decide) .nil
  exact ⟨_, text "/* a */", _, ⟨_, [], ⟨[], rfl, rfl⟩, rfl, rfl⟩, by decide, lead.gap _, laid⟩

theorem parse_of_derives_mixed :
    (parse "example" "/* a */cReate\ttype\"m\"as// b\nENUM( );// c").result =
      .ok [.createEnum "m" []] :=
  parse_of_derives derives_mixed (by decide)

end Schemata
