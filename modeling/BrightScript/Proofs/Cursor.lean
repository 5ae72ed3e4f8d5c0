import BrightScript.Proofs.Frames
set_option autoImplicit false

namespace BrightScript

def lastLineLength (text : String) : Nat :=
  (text.toList.reverse.takeWhile (· != '\n')).length

theorem last_line_length_append (text more : String) :
    lastLineLength (text ++ more) = columnAfter (lastLineLength text) more := by
  unfold lastLineLength columnAfter
  rw [String.toList_append]
  generalize text.toList = front, more.toList = tail
  induction tail generalizing front with
  | nil => simp
  | cons c tail ih =>
    have step : ((front ++ [c]).reverse.takeWhile (· != '\n')).length =
        columnStep (front.reverse.takeWhile (· != '\n')).length c := by
      by_cases lineEnd : c = '\n' <;> simp [columnStep, lineEnd]
    rw [List.append_cons, ih, step]
    rfl

-- The column is that of the text the sink has taken.
def Printer.InStep (p : Printer) : Prop :=
  p.column = lastLineLength p.sink.written

theorem Printer.write_in_step {p : Printer} (inStep : p.InStep) (text : String) :
    (p.write text).InStep := by
  unfold Printer.InStep at *
  unfold Printer.write Sink.write Printer.refusal?
  by_cases empty : text = ""
  · subst empty
    exact inStep
  · rw [if_neg empty]
    cases p.sink.refusal? text with
    | none => rw [inStep, last_line_length_append]
    | some reason => exact inStep

abbrev State.InStep (s : State) : Prop :=
  s.output.InStep

theorem in_step_lasting : Lasting State.InStep Any Any passAll where
  vetted s _ := vetted_any s.heap
  heap _ _ holds _ _ := holds
  ordinary _ _ := trivial
  fault _ _ := trivial
  locals _ _ _ holds := holds
  module _ _ _ holds := holds
  write _ text holds := Printer.write_in_step holds text
  caught _ _ holds _ := holds
  ended _ _ _ holds := holds
  finish := trivial
  bodies _ _ := .inr trivial

theorem in_step_opening : Opening State.InStep State.InStep where
  entered _ _ _ _ holds := holds
  opens _ _ holds := holds
  closes _ _ _ holds := holds

theorem padding_bounds (width column : Nat) :
    1 ≤ Printer.padding width column ∧ Printer.padding width column ≤ max 1 width ∧
      column + Printer.padding width column = (column / max 1 width + 1) * max 1 width := by
  unfold Printer.padding
  have positive : 0 < max 1 width := Nat.lt_of_lt_of_le Nat.one_pos (Nat.le_max_left 1 width)
  generalize max 1 width = zone at positive
  have part := Nat.mod_lt column positive
  have whole := Nat.div_add_mod column zone
  rw [Nat.add_mul, Nat.one_mul, Nat.mul_comm]
  omega

theorem column_after_blanks (column count : Nat) :
    columnAfter column (String.ofList (List.replicate count ' ')) = column + count := by
  unfold columnAfter
  rw [String.toList_ofList]
  induction count generalizing column with
  | zero => rfl
  | succ count ih =>
    have step : columnStep column ' ' = column + 1 := rfl
    rw [List.replicate_succ, List.foldl_cons, step, ih]
    omega

theorem Printer.write_taken {p : Printer} {text : String} (taken : p.refusal? text = none) :
    (p.write text).sink.written = p.sink.written ++ text ∧
      (p.write text).column = columnAfter p.column text := by
  have offered : p.sink.refusal? text = none := taken
  unfold Printer.write Sink.write
  rw [taken, offered]
  by_cases empty : text = ""
  · subst empty
    exact ⟨(String.append_empty).symm, rfl⟩
  · rw [if_neg empty]
    exact ⟨rfl, rfl⟩

variable {call : Call} {width : Nat} {location : Location}

theorem zone_started {s t : State} (ran : printItem call width location .zone s = .ok () t) :
    ∃ count, 1 ≤ count ∧ count ≤ max 1 width ∧
      t.output.sink.written = s.output.sink.written ++ String.ofList (List.replicate count ' ') ∧
      ∃ zone, 0 < zone ∧ t.output.column = zone * max 1 width := by
  obtain ⟨least, most, reached⟩ := padding_bounds width s.output.column
  change Exec.print (s.output.zoneGap width) location s = .ok () t at ran
  rw [print_eq] at ran
  cases refusal : s.output.refusal? (s.output.zoneGap width) with
  | some reason =>
    rw [refusal] at ran
    cases ran
  | none =>
    rw [refusal] at ran
    cases ran
    obtain ⟨written, column⟩ := Printer.write_taken refusal
    refine ⟨_, least, most, written, s.output.column / max 1 width + 1, Nat.succ_pos _, ?_⟩
    change (s.output.write _).column = _
    rw [column, Printer.zoneGap, column_after_blanks, reached]

/-- Whatever a sink takes and refuses, in a new session that writes to it the column of the printer
is the length of the last line that the sink has, after any commands and however they ended. Each
statement, and each print list as far as it comes, keeps it so. A separator that succeeds writes one
to `width` blanks, or one if zones have no width, and leaves the column at the start of a zone. -/
theorem cursor_follows_output (options : Options) :
    (∀ (refuses? : String → Nat → String → Option String) (errors : Sink)
      (commands : List Session.Command),
        ((Session.startOn options ⟨"", 0, refuses?⟩ errors).performAll commands).2.state.InStep) ∧
    (∀ (setting : Setting) (s : State), s.InStep →
      (∀ statement, (finalState (execute setting (callFunction setting) statement s)).InStep) ∧
      ∀ width location items,
        (finalState (printItems (callFunction setting) width location items s)).InStep) ∧
    (∀ (call : Call) (width : Nat) (location : Location) (s t : State),
      printItem call width location .zone s = .ok () t →
        ∃ count, 1 ≤ count ∧ count ≤ max 1 width ∧
          t.output.sink.written = s.output.sink.written ++
          String.ofList (List.replicate count ' ') ∧
          ∃ zone, 0 < zone ∧ t.output.column = zone * max 1 width) := by
  have calls : ∀ setting, CallsAgree State.InStep Any (callFunction setting)
      (callFunction setting) :=
    fun _ => call_function_keeps in_step_lasting in_step_opening
  refine ⟨?_, ?_, fun call width location s t ran => zone_started ran⟩
  · intro refuses? errors commands
    have started : (Session.startOn options ⟨"", 0, refuses?⟩ errors).state.InStep := rfl
    exact (Session.perform_all_keeps commands _
      (fun command _ => Session.command_keeps in_step_lasting (calls _) command) started).1
  · intro setting s inStep
    refine ⟨fun statement => ?_, fun width location items => ?_⟩
    · exact ends_final_state
        (execute_agree in_step_lasting (counterparts_refl _ _) (calls setting) statement
        statement.every_function_pass_all (.inr trivial) s inStep).2
    · exact ends_final_state (print_items_agree in_step_lasting (calls setting) width location items
        (every_print_function_pass_all items) s inStep).2

theorem cursor_after_refused_zone :
    let s := Session.startOn {} ⟨"", 0, fun _ offers _ => if offers = 1 then some "full" else none⟩
        (.empty none)
    let text : PrintItem := .expression (.literal (.string "a\nbc") .internal)
    let printing : Stmt := .print [text, .zone, text] .internal
    s.state.InStep ∧
      (s.performAll [.exec [printing], .exec [printing]]).2.state.InStep ∧
      (finalState (execute s.setting (callFunction s.setting) printing s.state)).InStep ∧
      ∃ t, printItem (callFunction s.setting) 16 .internal .zone s.state = .ok () t ∧
        ∃ count, 1 ≤ count ∧ count ≤ max 1 16 ∧
          t.output.sink.written = "" ++ String.ofList (List.replicate count ' ') ∧
          ∃ zone, 0 < zone ∧ t.output.column = zone * max 1 16 := by
  intro s text printing
  have inStep : s.state.InStep := rfl
  obtain ⟨commands, statements, zones⟩ := cursor_follows_output s.setting.options
  refine ⟨inStep, commands _ _ _, (statements s.setting s.state inStep).1 printing, ?_⟩
  obtain ⟨t, ran⟩ : ∃ t, printItem (callFunction s.setting) 16 .internal .zone s.state = .ok () t :=
    ⟨_, rfl⟩
  exact ⟨t, ran, zones _ _ _ _ _ ran⟩

end BrightScript
