import LiveLog.Proofs.ClearText
import LiveLog.Proofs.LosslessEntries
import LiveLog.Proofs.Printing
import LiveLog.Proofs.ToldRows
import LiveLog.Text.Pieces

namespace LiveLog

/-!
# JSON lines

A printer of JSON values prints each row on a line of its own, whatever the row says. No
character of the compact text of a value is a control character, so the lines can be told
apart, and from each line the value of the row that was printed comes back. The value
tells the kind of the row and every field of its entry, or of its group: the members that
a row adds have names of their own.

A row that is printed may show only some of the entries of the row that was shown. It is
never nested more deeply.
-/

namespace Row

/-- What can be printed of a row: one of its entries, or a group like it with some of its
entries in their order. -/
inductive IsPart : Row MergedEntry → Row MergedEntry → Prop
  | entry {e : MergedEntry} {whole : Row MergedEntry} (listed : e ∈ whole.entries) :
    IsPart (.entry e) whole
  | group {es : List MergedEntry} (g : Group MergedEntry) (some_of : es.Sublist g.entries) :
    IsPart (.group { g with entries := es }) (.group g)

namespace IsPart

variable {part whole : Row MergedEntry}

theorem of_narrowed {es : List MergedEntry} (some_of : es.Sublist whole.entries)
    (narrow : Printer.narrowed whole es = some part) : part.IsPart whole := by
  have single {e : MergedEntry} {rest : List MergedEntry}
      (last : (e :: rest).getLast?.map Row.entry = some part)
      (within : (e :: rest).Sublist whole.entries) : part.IsPart whole := by
    rcases Option.map_eq_some_iff.mp last with ⟨x, final, rfl⟩
    exact .entry (within.subset (List.mem_of_getLast? final))
  cases es with
  | nil =>
      rw [Printer.narrowed_nil] at narrow
      cases narrow
  | cons e rest =>
      cases rest with
      | nil => cases whole <;> exact single narrow some_of
      | cons f rest =>
          cases whole with
          | entry x => exact single narrow some_of
          | group g =>
              cases narrow
              exact .group g some_of

theorem mem_entries (is : part.IsPart whole) {e : MergedEntry} (listed : e ∈ part.entries) :
    e ∈ whole.entries := by
  cases is with
  | entry shown => exact List.mem_singleton.mp listed ▸ shown
  | group g some_of => exact some_of.subset listed

/-- What is printed of a group alone has fewer levels around it than in the group. -/
theorem fits (is : part.IsPart whole) (fits : whole.Fits) : part.Fits := by
  cases is with
  | entry listed =>
      cases whole with
      | entry x =>
          rw [List.mem_singleton.mp listed]
          exact fits
      | group g => exact fun x shown => (fits _ listed x shown).mono (by decide)
  | group g some_of => exact fun e listed => fits e (some_of.subset listed)

end IsPart

end Row

/-- A tool use of an agent comes back from its text if the values of its action do. -/
theorem MergedEntry.IsLossless.ofAgent {position : Nat} {name content : String} {action : Action}
    {status : ToolStatus} (early : position ≤ 9223372036854774807)
    (values : ∀ v ∈ action.values, v.IsLossless) (fits : action.Fits) :
    (MergedEntry.ofAgent position (.toolUse name action status) content).IsLossless where
  time := by
    simp only [MergedEntry.ofAgent]
    omega
  entry := by
    rintro _ ⟨⟩
    refine ⟨by simpa [Entry.values, Entry.action?] using values, ?_⟩
    rintro _ ⟨⟩
    exact fits

namespace Printer

theorem exists_whole_of_mem_news {shown : List (String × String)} {rows : List (Row MergedEntry)}
    {part : Row MergedEntry} (printed : part ∈ (news shown rows).1) :
    ∃ whole ∈ rows, part.IsPart whole := by
  induction rows generalizing shown with
  | nil => cases printed
  | cons row rows inductionHypothesis =>
      rw [news_cons, List.mem_append, Option.mem_toList] at printed
      rcases printed with now | later
      · exact ⟨row, List.mem_cons_self, .of_narrowed (changed_sublist shown row.entries) now⟩
      · rcases inductionHypothesis later with ⟨whole, listed, is⟩
        exact ⟨whole, List.mem_cons_of_mem row listed, is⟩

/-- What a run prints is part of a row that was shown. -/
theorem exists_whole_of_mem {p : Printer} {showings : List Showing} {part : Row MergedEntry}
    (printed : part ∈ (p.printedAll showings).flatten) :
    ∃ s ∈ showings, ∃ whole ∈ s.rows, part.IsPart whole := by
  rcases exists_showing_of_mem printed with ⟨q, s, member, now⟩
  rcases exists_whole_of_mem_news now with ⟨whole, settled, is⟩
  exact ⟨s, member, whole, s.settledRows_prefix.subset settled, is⟩

/-- Lines without line breaks, each with a line break at its end, are told apart. -/
theorem pieces_of_lines {lines : List String} (clear : ∀ line ∈ lines, Text.IsClear line.toList) :
    Text.pieces '\n' (lines.flatMap fun line => line.toList ++ ['\n']) =
      lines.map String.toList ++ [[]] := by
  induction lines with
  | nil => rfl
  | cons line lines inductionHypothesis =>
      rcases List.forall_mem_cons.mp clear with ⟨first, rest⟩
      rw [List.flatMap_cons, List.append_assoc, List.singleton_append, Text.pieces_append,
        Text.pieces_of_not_mem (first.not_mem (by decide)), inductionHypothesis rest]
      rfl

/-- The value of a row is read from its line. -/
theorem ofText_render {row : Row MergedEntry} (lossless : ∀ e ∈ row.entries, e.IsLossless)
    (fits : row.Fits) :
    Json.ofText (render true row) = .ok (row.toJson MergedEntry.members) := by
  have value := Row.isLossless_toJson lossless
  exact Json.ofText_compact value.integral value.distinct (Row.fits_iff.mp fits)

/-- JSON rows are printed one to a line. Whatever a printer of JSON values is shown, the
lines that it prints are the written forms of rows, each a part of a row that was shown.
No line has a control character, so that the lines can be told apart when each ends in a
line break. From each line a value is read that tells its row: the kind of the row, and
every field of its entry or of its group. -/
theorem json_rows_on_lines (showings : List Showing)
    (lossless : ∀ s ∈ showings, ∀ e ∈ s.entries, e.IsLossless)
    (fits : ∀ s ∈ showings, ∀ row ∈ s.rows, row.Fits) :
    let printed := (fresh true).printedAll showings
    let lines := ((fresh true).settleAll showings).flatten
    (fresh true).settleAll showings = printed.map (fun rows => rows.map (render true)) ∧
      (∀ row ∈ printed.flatten,
        (∃ s ∈ showings, ∃ whole ∈ s.rows, row.IsPart whole) ∧
        ∃ v, Json.ofText (render true row) = .ok v ∧ row.IsTold v) ∧
      (∀ line ∈ lines, ∀ c ∈ line.toList, 0x20 ≤ c.toNat) ∧
      Text.pieces '\n' (lines.flatMap fun line => line.toList ++ ['\n']) =
        lines.map String.toList ++ [[]] := by
  intro printed lines
  have clear : ∀ line ∈ lines, Text.IsClear line.toList := by
    intro line listed
    change line ∈ ((fresh true).settleAll showings).flatten at listed
    rw [flatten_settleAll] at listed
    rcases List.mem_map.mp listed with ⟨row, _printed, rfl⟩
    change Text.IsClear (String.ofList (row.toJson MergedEntry.members).chars).toList
    rw [String.toList_ofList]
    exact Json.isClear_chars _
  refine ⟨settleAll_eq _ _, ?_, clear, pieces_of_lines clear⟩
  intro row now
  rcases exists_whole_of_mem now with ⟨s, member, whole, shown, is⟩
  have entries : ∀ e ∈ row.entries, e.IsLossless := fun e listed =>
    lossless s member e (Rows.mem_flatten.mpr ⟨whole, shown, is.mem_entries listed⟩)
  exact ⟨⟨s, member, whole, shown, is⟩, row.toJson MergedEntry.members,
    ofText_render entries (is.fits (fits s member whole shown)), row.isTold_toJson⟩

/-- An agent that reads three files and calls a tool. The names and values have line breaks,
quotes and control characters, and members named like those of a row. The first file is
printed alone, and the others as a part of its group. -/
theorem hostile_rows_on_lines :
    let path := "a\r\n\u0001\".rs"
    let first := MergedEntry.ofAgent 0 (.toolUse "Re\nad" (.fileRead path) .created) ""
    let second := MergedEntry.ofAgent 1 (.toolUse "Read" (.fileRead "b.rs\u2028") .created) "\t"
    let third := MergedEntry.ofAgent 2 (.toolUse "Read" (.fileRead "c.rs") .created) "\n"
    let arguments : Json := .obj [("kind", .str "gro\nup"), ("a\n", .arr [.ofInt (-7), .obj []])]
    let result : ToolResult := ⟨.json, .arr [.null, arguments]⟩
    let call := MergedEntry.ofAgent 3
      (.toolUse "T" (.tool "t" (some arguments) (some result)) .success) "\\"
    let group (es : List MergedEntry) : Row MergedEntry :=
      .group ⟨.fileRead, es, "agg-\n", some default⟩
    let showings : List Showing := [⟨[.entry first, .entry call], false⟩,
      ⟨[group [first, second, third], .entry call], true⟩]
    let owner := "00000000-0000-0000-0000-000000000000"
    let members (position : String) (time : Int) (name : String) (action : Json) (status : String)
        (content : String) : List (String × Json) :=
      [("id", .str (owner ++ ":" ++ position)), ("ts", .ofInt time), ("process_id", .str owner),
        ("process_name", .str "Coding Agent"), ("channel", .str "normalized"),
        ("payload", .obj [("kind", .str "entry"), ("value", .obj [("timestamp", .null),
          ("entry_type", .obj [("type", .str "tool_use"), ("tool_name", .str name),
            ("action_type", action), ("status", .obj [("status", .str status)])]),
          ("content", .str content), ("metadata", .null)])])]
    let fileRead (path : String) : Json := .obj [("action", .str "file_read"), ("path", .str path)]
    (fresh true).printedAll showings =
        [[.entry first], [group [second, third], .entry call]] ∧
      ((fresh true).settleAll showings).flatten.map (fun line => (Json.ofText line).toOption) =
        [some (.obj (("kind", .str "entry") ::
            members "0" 1000 "Re\nad" (fileRead path) "created" "")),
          some (.obj [("kind", .str "group"), ("aggregation_type", .str "file_read"),
            ("entries", .arr [
              .obj (members "1" 1001 "Read" (fileRead "b.rs\u2028") "created" "\t"),
              .obj (members "2" 1002 "Read" (fileRead "c.rs") "created" "\n")]),
            ("group_key", .str "agg-\n"), ("process_id", .str owner)]),
          some (.obj (("kind", .str "entry") :: members "3" 1003 "T"
            (.obj [("action", .str "tool"), ("tool_name", .str "t"), ("arguments", arguments),
              ("result", .obj [("type", .str "json"), ("value", .arr [.null, arguments])])])
            "success" "\\"))] ∧
      (∃ v, Json.ofText (render true (.entry call)) = .ok v ∧ (Row.entry call).IsTold v) ∧
      Text.pieces '\n' ((((fresh true).settleAll showings).flatten).flatMap
        fun line => line.toList ++ ['\n']) =
          ((fresh true).settleAll showings).flatten.map String.toList ++ [[]] := by
  intro path first second third arguments result call group showings owner members fileRead
  have printed : (fresh true).printedAll showings =
      [[.entry first], [group [second, third], .entry call]] := by decide +kernel
  have number : (Json.ofInt (-7)).IsLossless := Json.isLossless_ofInt (by decide) (by decide)
  have given : arguments.IsLossless := by simp [arguments, number]
  have firstLossless : first.IsLossless := .ofAgent (by decide) (by simp [Action.values]) trivial
  have secondLossless : second.IsLossless := .ofAgent (by decide) (by simp [Action.values]) trivial
  have thirdLossless : third.IsLossless := .ofAgent (by decide) (by simp [Action.values]) trivial
  have callLossless : call.IsLossless :=
    .ofAgent (by decide) (by simp [Action.values, result, given]) trivial
  have lossless : ∀ s ∈ showings, ∀ e ∈ s.entries, e.IsLossless := by
    simp [showings, group, Showing.entries, Row.entries, firstLossless, secondLossless,
      thirdLossless, callLossless]
  have fits : ∀ s ∈ showings, ∀ row ∈ s.rows, row.Fits := by
    simp only [Row.fits_iff]
    decide +kernel
  have lines := json_rows_on_lines showings lossless fits
  have shown : ((fresh true).settleAll showings).flatten =
      [.entry first, group [second, third], .entry call].map (render true) := by
    rw [flatten_settleAll, printed]
    rfl
  refine ⟨printed, ?_, (lines.2.1 (.entry call) ?_).2, lines.2.2.2⟩
  · have read : ∀ row ∈ [.entry first, group [second, third], .entry call],
        (Json.ofText (render true row)).toOption = some (row.toJson MergedEntry.members) := by
      have entries : ∀ row ∈ [.entry first, group [second, third], .entry call],
          ∀ e ∈ row.entries, e.IsLossless := by
        simp [group, Row.entries, firstLossless, secondLossless, thirdLossless, callLossless]
      have fitting : ∀ row ∈ [.entry first, group [second, third], .entry call], row.Fits := by
        simp only [Row.fits_iff]
        decide +kernel
      intro row listed
      rw [ofText_render (entries row listed) (fitting row listed)]
      rfl
    rw [shown, List.map_map]
    exact List.map_congr_left read
  · rw [printed]
    simp

end Printer

end LiveLog
