import Mathlib
import Schemata.Proofs.Json.RoundTrip
import Schemata.Proofs.Report.Injective
import Schemata.Report.Export

/-! # JSON reports lose nothing

The JSON text of a report is read back as the data of the report. With the statements of a report told by their
data, two reports that are made at one time, by one tool and from one source have the same text only if they
have the same statements.
-/

namespace Schemata

attribute [simp] Plain.Proper.null Plain.Proper.flag Plain.Proper.number Plain.Proper.string

/-! ## Reports have a written form -/

namespace Plain

theorem unwritableItem?_eq_none {items : List Plain} (written : ∀ item ∈ items, item.unwritable? = none) :
    unwritableItem? items = none := by
  induction items with
  | nil => rfl
  | cons item items ih =>
    obtain ⟨first, others⟩ := List.forall_mem_cons.1 written
    rw [unwritableItem?, first, Option.none_or, ih others]

theorem unwritableField?_eq_none {fields : List (Text × Plain)}
    (written : ∀ field ∈ fields, field.2.unwritable? = none) : unwritableField? fields = none := by
  induction fields with
  | nil => rfl
  | cons field fields ih =>
    obtain ⟨first, others⟩ := List.forall_mem_cons.1 written
    rw [unwritableField?, first, Option.none_or, ih others]

theorem Proper.unwritable? {p : Plain} (proper : p.Proper) : p.unwritable? = none := by
  induction proper with
  | list _ ih => exact unwritableItem?_eq_none ih
  | record _ _ ih => exact unwritableField?_eq_none ih
  | _ => rfl

theorem Proper.node {kind : Text} {fields : List (Text × Plain)}
    (distinct : (kindField :: fields.map Prod.fst).Nodup) (each : ∀ field ∈ fields, field.2.Proper) :
    (Plain.node kind fields).Proper :=
  .record distinct (List.forall_mem_cons.2 ⟨.string kind, each⟩)

theorem proper_ofString? (t : Option Text) : (ofString? t).Proper := by
  cases t
  · exact .null
  · exact .string _

end Plain

theorem ColumnType.toPlain_proper (type : ColumnType) : type.toPlain.Proper := by
  cases type with
  | known type => exact .string _
  | custom name => exact .node (by simp only [List.map]; decide) (by simp)

theorem Expression.WellFormed.proper {e : Expression} (well : e.WellFormed) : e.toPlain.Proper := by
  induction well with
  | var name => exact .node (by simp only [List.map]; decide) (by simp)
  | call function _ ih =>
    refine .node (by simp only [List.map]; decide) ?_
    simpa [toPlains_eq_map] using Plain.Proper.list (List.forall_mem_map.2 ih)
  | literal value => exact .node (by simp only [List.map]; decide) (by simp)

theorem Column.WellFormed.proper {column : Column} (well : column.WellFormed) : column.toPlain.Proper := by
  have default : (Plain.ofOption (column.default?.map Expression.toPlain)).Proper := by
    cases given : column.default? with
    | none => exact .null
    | some e => exact (well e given).proper
  refine .node (by simp only [List.map]; decide) ?_
  simp [ColumnType.toPlain_proper, default]

theorem Constraint.WellFormed.proper {constraint : Constraint} (well : constraint.WellFormed) :
    constraint.toPlain.Proper := by
  cases well with
  | foreignKey key =>
    refine .node (by simp only [List.map]; decide) ?_
    simp [Plain.proper_ofString?]

theorem Statement.WellFormed.proper {statement : Statement} (well : statement.WellFormed) :
    statement.toPlain.Proper := by
  cases well with
  | createExtension name ifNotExists => exact .node (by simp only [List.map]; decide) (by simp)
  | createTable name well =>
    refine .node (by simp only [List.map]; decide) ?_
    simpa using Plain.Proper.list (List.forall_mem_map.2 fun column member => (well column member).proper)
  | createEnum name values =>
    have listed : (Plain.ofStrings values).Proper := .list (List.forall_mem_map.2 fun value _ => .string value)
    exact .node (by simp only [List.map]; decide) (by simp [listed])
  | addConstraint table name well =>
    refine .node (by simp only [List.map]; decide) ?_
    simpa using well.proper
  | comment content => exact .node (by simp only [List.map]; decide) (by simp)

namespace Report

theorem mem_keys_tally {counts : List (Text × Nat)} {kind key : Text}
    (member : key ∈ (tally counts kind).map Prod.fst) : key = kind ∨ key ∈ counts.map Prod.fst := by
  induction counts with
  | nil => exact .inl (List.mem_singleton.1 member)
  | cons count rest ih =>
    obtain ⟨seen, n⟩ := count
    by_cases same : seen = kind
    · rw [tally, if_pos same] at member
      exact .inr member
    · rw [tally, if_neg same, List.map_cons] at member
      rcases List.mem_cons.1 member with rfl | member
      · exact .inr List.mem_cons_self
      · exact (ih member).imp id (List.mem_cons_of_mem _)

/-- Each kind is counted once. -/
theorem nodup_tally {counts : List (Text × Nat)} (distinct : (counts.map Prod.fst).Nodup) (kind : Text) :
    ((tally counts kind).map Prod.fst).Nodup := by
  induction counts with
  | nil => exact List.nodup_singleton _
  | cons count rest ih =>
    obtain ⟨seen, n⟩ := count
    obtain ⟨fresh, distinct'⟩ := List.nodup_cons.1 distinct
    by_cases same : seen = kind
    · rw [tally, if_pos same]
      exact distinct
    · rw [tally, if_neg same, List.map_cons]
      refine List.nodup_cons.2 ⟨fun member => ?_, ih distinct'⟩
      rcases mem_keys_tally member with here | there
      · exact same here
      · exact fresh there

theorem nodup_counts (report : Report) : (report.counts.map Prod.fst).Nodup := by
  have all (kinds : List Text) (counts : List (Text × Nat)) (distinct : (counts.map Prod.fst).Nodup) :
      ((kinds.foldl tally counts).map Prod.fst).Nodup := by
    induction kinds generalizing counts with
    | nil => exact distinct
    | cons kind kinds ih => exact ih _ (nodup_tally distinct kind)
  exact all _ [] List.nodup_nil

/-- The statements of the report are well-formed, and the data on its tool has a written form. -/
structure WellFormed (report : Report) : Prop where
  toolName : report.tool.name.Proper
  toolVersion : report.tool.version.Proper
  statements : ∀ statement ∈ report.statements, statement.WellFormed

theorem WellFormed.proper {report : Report} (well : report.WellFormed) : report.toPlain.Proper := by
  have source : report.source.toPlain.Proper := by
    cases report.source with
    | unknown => exact .null
    | withheld => exact .list (by simp)
    | named name => exact .string name
  have metadata : (Plain.record
      [(text "timestamp", .string report.timestamp), (text "tool", report.tool.name),
       (text "version", report.tool.version), (text "source", report.source.toPlain)]).Proper := by
    refine .record (by simp only [List.map]; decide) ?_
    simp [well.toolName, well.toolVersion, source]
  have counts : (Plain.record (report.counts.map fun count => (count.1, .ofNat count.2))).Proper := by
    refine .record ?_ (List.forall_mem_map.2 fun _ _ => .number _)
    rw [List.map_map]
    exact report.nodup_counts
  have summary : (Plain.record [(text "total_statements", .ofNat report.statements.length),
      (text "by_kind", .record (report.counts.map fun count => (count.1, .ofNat count.2)))]).Proper := by
    refine .record (by simp only [List.map]; decide) ?_
    simp only [List.forall_mem_cons]
    exact ⟨.number _, counts, by simp⟩
  have statements : (Plain.list (report.statements.map Statement.toPlain)).Proper :=
    .list (List.forall_mem_map.2 fun statement member => (well.statements statement member).proper)
  refine .record (by simp only [List.map]; decide) ?_
  simp only [List.forall_mem_cons]
  exact ⟨metadata, summary, statements, by simp⟩

theorem WellFormed.writeAs_json {report : Report} (well : report.WellFormed) :
    report.writeAs (some "json") = .ok report.toPlain.json := by
  have format : OutputFormat.resolve (some "json") = .ok .json := by decide
  rw [writeAs, format]
  show report.asJson = _
  rw [asJson, well.proper.unwritable?]

/-- The data of a report tells its statements. -/
theorem statements_eq {report report' : Report} (well : report.WellFormed) (well' : report'.WellFormed)
    (same : report.toPlain = report'.toPlain) : report.statements = report'.statements := by
  simp only [toPlain, Plain.record.injEq, List.cons.injEq, Prod.mk.injEq, Plain.list.injEq, true_and, and_true]
    at same
  exact eq_of_map_eq (fun a member b member' => Statement.toPlain_injective (well.statements a member)
    (well'.statements b member')) same.2.2

/-- With everything else fixed, only the same statements have the same JSON text. -/
theorem statements_eq_of_json {report report' : Report} {output : Text} (well : report.WellFormed)
    (well' : report'.WellFormed) (written : report.writeAs (some "json") = .ok output)
    (written' : report'.writeAs (some "json") = .ok output) : report.statements = report'.statements := by
  rw [well.writeAs_json] at written
  rw [well'.writeAs_json] at written'
  have texts : report.toPlain.json = report'.toPlain.json := Except.ok.inj (written.trans written'.symm)
  have read := Json.read?_json well.proper
  rw [texts, Json.read?_json well'.proper] at read
  exact statements_eq well well' (Option.some.inj read).symm

end Report

/-- The text is the JSON text of the report; it is read back as the data of the report, and no other
statements have it. -/
structure LosesNothing (report : Report) (output : Text) : Prop where
  written : report.writeAs (some "json") = .ok output
  read : Json.read? output = some report.toPlain
  unique : ∀ statements : List Statement, (∀ statement ∈ statements, statement.WellFormed) →
    { report with statements := statements }.writeAs (some "json") = .ok output → statements = report.statements

/-- The JSON text of a report gives back the report, and plain data gives back the node. -/
theorem json_loses_nothing :
    (∀ report : Report, report.WellFormed → ∃ output, LosesNothing report output) ∧
      ∀ a b : SchemaNode, a.WellFormed → b.WellFormed → a.toPlain = b.toPlain → a = b := by
  refine ⟨fun report well => ⟨report.toPlain.json, ?_⟩, fun a b => SchemaNode.toPlain_injective⟩
  refine ⟨well.writeAs_json, Json.read?_json well.proper, fun statements well' same => ?_⟩
  have other : { report with statements := statements }.WellFormed := ⟨well.toolName, well.toolVersion, well'⟩
  exact Report.statements_eq_of_json other well same well.writeAs_json

/-- A report on a table and a foreign key is read back; a known type is told from one of the same name that is
not known. -/
theorem json_loses_nothing_table :
    let id : Column := ⟨"id", .known .uuid, some (.call "f" [.literal "\"\\\n"]), true, true, false, by decide⟩
    let report : Report := ⟨"now", .standard, .unknown, [.createTable "a" [id],
      .addConstraint "a" "b" (.foreignKey ⟨"id", "c", none, some .setNull⟩)]⟩
    (∃ output, LosesNothing report output) ∧
      SchemaNode.toPlain (.columnType (.known .text)) ≠ SchemaNode.toPlain (.columnType (.custom "TEXT")) := by
  intro id report
  have well : report.WellFormed := by
    have default : id.WellFormed := by
      rintro e ⟨⟩
      exact .call _ (by simpa using .literal _)
    refine ⟨.string _, .string _, fun statement member => ?_⟩
    simp only [report, List.mem_cons, List.not_mem_nil, or_false] at member
    rcases member with rfl | rfl
    · exact .createTable _ (by simpa using default)
    · exact .addConstraint _ _ (.foreignKey _)
  refine ⟨json_loses_nothing.1 report well, fun same => ?_⟩
  have equal := json_loses_nothing.2 _ _ (.columnType _) (.columnType _) same
  exact absurd equal (by decide)

end Schemata
