import BoundSql.Proofs.Lossless
import BoundSql.Proofs.Paging

/-!
# The first row of a statement of the caller's

The first row of a raw query is picked from the rows of the database. In array and object mode that
is the first row of the shape in which all rows are handed out. In JSON mode it is exactly if the
rows have a document and the first of them consists of native values: any other value is told by
the document as something else, and picked as it is.
-/

namespace BoundSql

open Text

variable {σ : Type}

/-- The first row can be read from the shape of the rows as it was. -/
def KeepsFirst (rows : List Row) (mode : FetchMode) (style : JsonStyle) : Prop :=
  mode = .json → (Json.write style (.list (rows.map .mapping))).isOk = true ∧
    ∀ row ∈ rows.head?, (Value.mapping row).IsNative

/-- In a document the first row is told as it is exactly if its values are native. -/
theorem firstRow_document_eq_iff {style : JsonStyle} (hread : style.Legible)
    (hsort : style.sortKeys = false) {rows : List Row} {document : String}
    (hwrite : Json.write style (.list (rows.map .mapping)) = .ok document) :
    firstRow (.document document) = .ok ((rows.head?.map .mapping).getD .null) ↔
      ∀ row ∈ rows.head?, (Value.mapping row).IsNative := by
  obtain ⟨w, htells, hw⟩ := Json.read_write hread hwrite
  obtain ⟨ws, rfl, hall⟩ := htells.of_list
  rw [firstRow_document hw]
  cases rows with
  | nil =>
    cases hall
    exact iff_of_true rfl nofun
  | cons row rest =>
    cases hall with | @cons _ first _ more hfirst _ =>
    refine ⟨fun heq => ?_, fun hnative => ?_⟩
    · rintro _ ⟨⟩
      exact hfirst.native hsort (Except.ok.inj heq)
    · exact congrArg Except.ok ((hfirst.rearranged (hnative row rfl)).2 hsort)

/-- The row that is picked, as a mapping unless records are asked for. -/
theorem Outcome.first_eq (outcome : Outcome) {mode : FetchMode} (h : mode ≠ .object) :
    outcome.first mode = (outcome.rowList.head?.map .mapping).getD .null := by
  unfold Outcome.first
  split
  next hrows => rw [hrows]; rfl
  next row rest hrows => rw [hrows, if_neg h]; rfl

/-- Picking the first row and reading it from the shape of all rows give the same exactly then. -/
theorem Outcome.first_eq_iff {style : JsonStyle} (hread : style.Legible)
    (hsort : style.sortKeys = false) (outcome : Outcome) (mode : FetchMode) :
    .ok (outcome.first mode) = (outcome.shaped mode style >>= firstRow) ↔
      KeepsFirst outcome.rowList mode style := by
  cases mode with
  | array =>
    refine iff_of_true ?_ fun h => absurd h (by decide)
    rw [outcome.first_eq (by decide)]
    exact (firstRow_rows _).symm
  | object =>
    refine iff_of_true ?_ fun h => absurd h (by decide)
    unfold Outcome.first Outcome.shaped
    cases outcome.rowList <;> rfl
  | json =>
    rw [outcome.first_eq (by decide), Outcome.shaped, shapeRows, KeepsFirst]
    cases hwrite : Json.write style (.list (outcome.rowList.map .mapping)) with
    | error e =>
      refine iff_of_false (fun h => ?_) fun h => absurd (h rfl).1 Bool.false_ne_true
      cases h
    | ok document =>
      have hdocument := firstRow_document_eq_iff hread hsort hwrite
      rw [eq_comm]
      exact hdocument.trans ⟨fun h _ => ⟨rfl, h⟩, fun h => (h rfl).2⟩

namespace Builder

/-- A raw query for its first row leaves the same behind as one for all rows, and it gives the first
row of what that gives exactly if the rows that the database returns keep their first row. -/
theorem rawQueryOne_agrees_iff (around : Surroundings σ) (sql : String) (params : List Value)
    {s : Builder × Session σ} (hread : s.1.style.Legible) (hsort : s.1.style.sortKeys = false) :
    let one := rawQueryOne around sql params s
    let first := (rawQuery around sql params >>= fun shaped => Act.ofExcept (firstRow shaped)) s
    one.2 = first.2 ∧ (one.1 = first.1 ↔
      ∀ outcome t, execute around sql params true s = (.ok outcome, t) →
        KeepsFirst outcome.rowList s.1.mode s.1.style) := by
  intro one first
  have hone : one = clearing (execute around sql params true >>= fun outcome =>
      present fun mode _ => .ok (outcome.first mode)) s :=
    congrFun ((rawQueryOne_eq around sql params).trans
      (clearing_bind fun _ => ignoresClauses_present _)) s
  have hfirst : first = clearing (execute around sql params true >>= fun outcome =>
      present fun mode style => outcome.shaped mode style >>= firstRow) s := by
    refine congrFun ((clearing_bind fun _ => ignoresClauses_ofExcept _).trans ?_) s
    rw [fetch_eq, Act.bind_assoc]
    simp only [present_bind]
  have hkept : (execute around sql params true s).2.1.mode = s.1.mode ∧
      (execute around sql params true s).2.1.style = s.1.style := ⟨rfl, rfl⟩
  rw [hone, hfirst]
  simp only [clearing, Act.always_apply, Act.bind_apply]
  generalize execute around sql params true s = ended at hkept ⊢
  obtain ⟨result, t⟩ := ended
  cases result with
  | error e =>
    refine ⟨rfl, iff_of_true rfl fun outcome t heq => ?_⟩
    cases heq
  | ok outcome =>
    obtain ⟨hmode, hstyle⟩ := hkept
    have hpresented := outcome.first_eq_iff (hstyle ▸ hread) (hstyle ▸ hsort) t.1.mode
    refine ⟨rfl, hpresented.trans ⟨?_, fun h => ?_⟩⟩
    · rintro hkeeps _ _ ⟨⟩
      rwa [hmode, hstyle] at hkeeps
    · rw [hmode, hstyle]
      exact h outcome t rfl

/-- A first row of native values is given by both. -/
theorem rawQueryOne_agrees_iff_noted :
    let start := Builder.cautious [[[(.text "note", .list [.text "a", .null])]]]
    let s := ({ start.1 with mode := .json }, start.2)
    let sql := "SELECT note FROM t"
    s.1.style.Legible ∧ s.1.style.sortKeys = false ∧
      (rawQueryOne Surroundings.answering sql [] s).1 =
        ((rawQuery Surroundings.answering sql [] >>= fun shaped =>
          Act.ofExcept (firstRow shaped)) s).1 := by
  intro start s sql
  have hread : s.1.style.Legible := ⟨rfl, nofun⟩
  have hrows : (execute Surroundings.answering sql [] true s).1.toOption.map Outcome.rowList =
      some [[(.text "note", .list [.text "a", .null])]] := by decide +kernel
  refine ⟨hread, rfl,
    (rawQueryOne_agrees_iff Surroundings.answering sql [] hread rfl).2.mpr fun outcome t h _ => ?_⟩
  rw [h] at hrows
  rw [Option.some.inj hrows]
  refine ⟨by decide, ?_⟩
  rintro _ ⟨⟩
  exact .mapping (.single _ _) (by simpa using .list (by simpa using ⟨.text _, .null⟩))

/-- A day is picked as a day, and told by a document as a text. -/
theorem rawQueryOne_undecoded :
    let start := Builder.cautious [[[(.text "day", .date ⟨2024, 5, 1⟩)]]]
    let s := ({ start.1 with mode := .json }, start.2)
    let sql := "SELECT day FROM t"
    (rawQueryOne Surroundings.answering sql [] s).1.toOption =
        some (.mapping [(.text "day", .date ⟨2024, 5, 1⟩)]) ∧
      ((rawQuery Surroundings.answering sql [] >>= fun shaped =>
        Act.ofExcept (firstRow shaped)) s).1.toOption =
        some (.mapping [(.text "day", .text "2024-05-01")]) := by
  decide +kernel

end Builder

end BoundSql
