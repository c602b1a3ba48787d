import MiniLisp.Proofs.Program.Session
import MiniLisp.Proofs.Reading.Grammar
import MiniLisp.Proofs.Reading.Layout

/-! # Programs one after the other

A program that can be read to its end, a line end and a second program are a program: it does what
the two do one after the other. The line end keeps their tokens apart, the forms of the second
program follow those of the first, and an error in reading the second leaves the first alone. -/

namespace MiniLisp

/-! ## Reading -/

/-- After a text that is read to its end, reading goes on with what is on the next line. -/
theorem read_newline {s : String} (h : (read s).failure = none) (t : String) :
    read (s ++ "\n" ++ t) =
      ⟨(read s).forms ++ (read t).forms, (read t).failure, (read t).rest⟩ := by
  rw [read, Token.lex_newline]
  exact (Reading.data_of_failure_eq_none h).ofTokens_append (Token.lex t)

namespace Program

/-! ## Sessions -/

theorem transcript_append (debug : Bool) (traceback : Traceback) (entries others : List Entry) :
    transcript debug traceback (entries ++ others) =
      transcript debug traceback entries ++ transcript debug traceback others := by
  induction entries with
  | nil => simp
  | cons entry entries ih => simp [ih, String.append_assoc]

theorem session_append_iff {env env' : Environment} {entries others : List Entry} :
    Session env (entries ++ others) env' ↔
      ∃ env₁, Session env entries env₁ ∧ Session env₁ others env' := by
  induction entries generalizing env with
  | nil =>
    refine ⟨fun h => ⟨env, .nil, h⟩, ?_⟩
    rintro ⟨_, hnil, h⟩
    cases hnil
    exact h
  | cons entry entries ih =>
    refine ⟨?_, ?_⟩
    · intro h
      cases h with
      | cons head tail =>
        obtain ⟨env₁, hfirst, hsecond⟩ := ih.1 tail
        exact ⟨env₁, .cons head hfirst, hsecond⟩
    · rintro ⟨env₁, hfirst, hsecond⟩
      cases hfirst with
      | cons head tail => exact .cons head (ih.2 ⟨env₁, tail, hsecond⟩)

theorem finalStatus_le_one (failure : Option Error) (entries : List Entry) :
    finalStatus failure entries ≤ 1 := by
  rw [finalStatus]
  split <;> omega

/-- A session in two parts fails if one of its parts does. -/
theorem finalStatus_append (failure : Option Error) (entries others : List Entry) :
    finalStatus failure (entries ++ others) =
      max (finalStatus none entries) (finalStatus failure others) := by
  by_cases hentries : ∀ entry ∈ entries, entry.result.isOk = true
  · have hfirst : finalStatus none entries = 0 := if_pos ⟨rfl, hentries⟩
    have hall : (∀ entry ∈ entries ++ others, entry.result.isOk = true) ↔
        ∀ entry ∈ others, entry.result.isOk = true := by
      rw [List.forall_mem_append, and_iff_right hentries]
    rw [hfirst, Nat.zero_max]
    simp only [finalStatus, hall]
  · have hfirst : finalStatus none entries = 1 := if_neg fun h => hentries h.2
    have hboth : finalStatus failure (entries ++ others) = 1 :=
      if_neg fun h => hentries (List.forall_mem_append.1 h.2).1
    rw [hfirst, hboth, Nat.max_eq_left (finalStatus_le_one failure others)]

/-! ## Programs -/

/-- A program that can be read to its end and another on the lines after it, which may have errors,
    leave the same environment, print the same text and give the same status as the two run one
    after the other, if the texts are put together and the larger status is taken. The run of the
    whole finishes just if both runs do. Nothing depends on what the tracebacks in reports say. -/
theorem runs_newline_iff (debug : Bool) (traceback : Traceback) (s t : String)
    (hs : (read s).failure = none) (m : Machine) (status : Nat) (text : String)
    (env' : Environment) :
    (∃ m', m'.env = env' ∧ Runs debug traceback (s ++ "\n" ++ t) m status text m') ↔
      ∃ status₁ status₂ text₁ text₂ m₁ m', Runs debug traceback s m status₁ text₁ m₁ ∧
        Runs debug traceback t m₁ status₂ text₂ m' ∧ m'.env = env' ∧ text = text₁ ++ text₂ ∧
        status = max status₁ status₂ := by
  have hread := read_newline hs t
  refine ⟨?_, ?_⟩
  · rintro ⟨m', rfl, hruns⟩
    obtain ⟨entries, hsession, hforms, rfl, rfl⟩ := hruns.session
    rw [hread] at hforms ⊢
    obtain ⟨first, second, rfl, hfirst, hsecond⟩ := List.map_eq_append_iff.1 hforms
    obtain ⟨env₁, hsession₁, hsession₂⟩ := session_append_iff.1 hsession
    obtain ⟨m₁, rfl, hruns₁⟩ := hsession₁.runs debug traceback hfirst
    obtain ⟨m₂, henv, hruns₂⟩ := hsession₂.runs debug traceback hsecond
    refine ⟨_, _, _, _, m₁, m₂, hruns₁, hruns₂, henv, ?_, ?_⟩
    · rw [hs, ending, String.append_empty, transcript_append, String.append_assoc]
    · rw [hs, finalStatus_append]
  · rintro ⟨_, _, _, _, m₁, m', hruns₁, hruns₂, rfl, rfl, rfl⟩
    obtain ⟨first, hsession₁, hfirst, rfl, rfl⟩ := hruns₁.session
    obtain ⟨second, hsession₂, hsecond, rfl, rfl⟩ := hruns₂.session
    have hsession := session_append_iff.2 ⟨m₁.env, hsession₁, hsession₂⟩
    have hforms : (first ++ second).map Entry.form = (read (s ++ "\n" ++ t)).forms := by
      rw [List.map_append, hfirst, hsecond, hread]
    have hruns := hsession.runs debug traceback hforms
    rw [hread, transcript_append, finalStatus_append] at hruns
    rw [hs, ending, String.append_empty, ← String.append_assoc]
    exact hruns

/-- `(PRINT 'A) ; done` ends in a comment, and `2 )` cannot be read to its end. Together they print
    what they print one after the other, and the status is that of the second. -/
theorem runs_newline_iff_comment :
    let s := "(PRINT 'A) ; done"
    let t := "2 )"
    let text := "A\nA\n2\nError occurred!\nSpecify '-d' to debug the error!\n"
    (read s).failure = none ∧ ∃ status₁ status₂ text₁ text₂ m₁ m',
      Runs false .mark s {} status₁ text₁ m₁ ∧ Runs false .mark t m₁ status₂ text₂ m' ∧
        text = text₁ ++ text₂ ∧ 1 = max status₁ status₂ := by
  intro s t text
  have hs : (read s).failure = none := Option.isNone_iff_eq_none.1 (by decide +kernel)
  have hrun : ((run 9 false (s ++ "\n" ++ t) {}).map fun p => (p.1, p.2.output)) =
      some (1, text) := by decide +kernel
  obtain ⟨⟨status, m'⟩, hrun, hend⟩ := Option.map_eq_some_iff.1 hrun
  obtain ⟨rfl, houtput⟩ := Prod.mk.inj hend
  have hruns : Runs false .mark (s ++ "\n" ++ t) {} 1 text m' :=
    ⟨⟨9, hrun⟩, by rw [houtput, String.empty_append]⟩
  obtain ⟨status₁, status₂, text₁, text₂, m₁, m₂, hruns₁, hruns₂, -, htext, hstatus⟩ :=
    (runs_newline_iff false .mark s t hs {} 1 text m'.env).1 ⟨m', rfl, hruns⟩
  exact ⟨hs, status₁, status₂, text₁, text₂, m₁, m₂, hruns₁, hruns₂, htext, hstatus⟩

end Program

end MiniLisp
