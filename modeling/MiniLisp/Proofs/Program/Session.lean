import MiniLisp.Proofs.Evaluation.Simulation

/-! # Programs as sessions

A session is the evaluation of forms one after the other, each in the environment that the one
before it left, whether that one gave a value or failed. Running a program is the session of the
forms that were read, and prints its transcript. The values of a program come from the same session,
which ends with the first error. -/

namespace MiniLisp

/-! ## Evaluation in an environment -/

/-- Machines with the same environment, on which the same text was printed since the outputs were
    `p` and `q`. -/
structure Machine.SameEnv (p q : String) (m n : Machine) : Prop where
  env : n.env = m.env
  output : ∃ printed, m.output = p ++ printed ∧ n.output = q ++ printed

theorem Machine.SameEnv.congruence (p q : String) : Machine.Congruence (SameEnv p q) where
  functions h := by rw [h.env]
  vars h _ := by rw [h.env]
  substitute h table := ⟨congrArg (·.substitute table) h.env, h.output⟩
  restore h h' := ⟨by simp only [h.env, h'.env], h'.output⟩
  print h text := by
    obtain ⟨printed, hm, hn⟩ := h.output
    refine ⟨h.env, printed ++ text, ?_, ?_⟩
    · rw [hm, String.append_assoc]
    · rw [hn, String.append_assoc]
  record h _ := ⟨h.env, h.output⟩
  addFunction h name fn := ⟨congrArg (·.addFunction name fn) h.env, h.output⟩
  addLambda h fn := ⟨congrArg (·.addLambda fn) h.env, h.output⟩
  settle h := ⟨by simp only [h.env], h.output⟩

/-- Evaluated in the environment `env`, the expression `x` ends with `r`, prints `printed` and leaves
    the environment `env'`. -/
def Environment.Evaluates (env : Environment) (x : Sexp) (r : Except Error Sexp) (printed : String)
    (env' : Environment) : Prop :=
  ∃ m, MiniLisp.Evaluates x { env := env } r m ∧ m.output = printed ∧ m.env = env'

/-- What an evaluation does depends on the environment of the machine only. -/
theorem Evaluates.environment {x : Sexp} {m m' : Machine} {r : Except Error Sexp}
    (h : Evaluates x m r m') :
    ∃ printed, m.env.Evaluates x r printed m'.env ∧ m'.output = m.output ++ printed := by
  obtain ⟨fuel, h⟩ := h
  have hsame : Machine.SameEnv m.output "" m { env := m.env } :=
    ⟨rfl, "", String.append_empty.symm, String.append_empty.symm⟩
  obtain ⟨n, hn, henv, printed, hm', hprinted⟩ :=
    evaluate_simulates (Machine.SameEnv.congruence _ _) (Nat.le_refl fuel) x hsame h
  rw [String.empty_append] at hprinted
  exact ⟨printed, ⟨n, ⟨fuel, hn⟩, hprinted, henv⟩, hm'⟩

theorem Environment.Evaluates.machine {x : Sexp} {m : Machine} {r : Except Error Sexp}
    {printed : String} {env' : Environment} (h : m.env.Evaluates x r printed env') :
    ∃ m', MiniLisp.Evaluates x m r m' ∧ m'.env = env' ∧ m'.output = m.output ++ printed := by
  obtain ⟨n, ⟨fuel, hn⟩, rfl, rfl⟩ := h
  have hsame : Machine.SameEnv "" m.output { env := m.env } m :=
    ⟨rfl, "", String.append_empty.symm, String.append_empty.symm⟩
  obtain ⟨m', hm', henv, printed, hprinted, houtput⟩ :=
    evaluate_simulates (Machine.SameEnv.congruence _ _) (Nat.le_refl fuel) x hsame hn
  rw [String.empty_append] at hprinted
  exact ⟨m', ⟨fuel, hm'⟩, henv, by rw [houtput, hprinted]⟩

namespace Program

/-! ## Sessions -/

/-- A form of a session, with the value or the error that it ended with and the text that it printed
    meanwhile. -/
structure Entry where
  form : Sexp
  result : Except Error Sexp
  printed : String

/-- The entries of a session that begins in one environment and ends in another. -/
inductive Session : Environment → List Entry → Environment → Prop where
  | nil {env : Environment} : Session env [] env
  | cons {env env₁ env' : Environment} {entry : Entry} {entries : List Entry}
      (head : env.Evaluates entry.form entry.result entry.printed env₁)
      (tail : Session env₁ entries env') : Session env (entry :: entries) env'

/-- What is printed at the end of a form: its value on a line, or a report of its error. -/
def answer (debug : Bool) (traceback : Traceback) (form : Sexp) : Except Error Sexp → String
  | .ok value => value.render ++ "\n"
  | .error e => report debug e.message (traceback (.evaluationFailed form e))

def Entry.text (debug : Bool) (traceback : Traceback) (entry : Entry) : String :=
  entry.printed ++ answer debug traceback entry.form entry.result

/-- What is printed during a session. -/
def transcript (debug : Bool) (traceback : Traceback) (entries : List Entry) : String :=
  String.join (entries.map (Entry.text debug traceback))

@[simp] theorem transcript_nil (debug : Bool) (traceback : Traceback) :
    transcript debug traceback [] = "" := rfl

@[simp] theorem transcript_cons (debug : Bool) (traceback : Traceback) (entry : Entry)
    (entries : List Entry) :
    transcript debug traceback (entry :: entries) =
      entry.text debug traceback ++ transcript debug traceback entries :=
  String.join_cons

/-- The status that a session leaves: 1 if a form failed, and else the one from before. -/
def statusAfter (status : Nat) (entries : List Entry) : Nat :=
  if entries.all (·.result.isOk) then status else 1

theorem statusAfter_cons (status : Nat) (entry : Entry) (entries : List Entry) :
    statusAfter status (entry :: entries) =
      statusAfter (if entry.result.isOk then status else 1) entries := by
  cases hentry : entry.result.isOk <;> simp [statusAfter, hentry]

/-! ## Forms -/

/-- The machine after the answer to a form. -/
def settle (debug : Bool) (traceback : Traceback) (form : Sexp) :
    Except Error Sexp → Machine → Machine
  | .ok value, m => printValue value m
  | .error e, m => fail debug traceback (.evaluationFailed form e) e m

section

variable {debug : Bool} {traceback : Traceback}

@[simp] theorem settle_env (form : Sexp) (r : Except Error Sexp) (m : Machine) :
    (settle debug traceback form r m).env = m.env := by
  cases r <;> rfl

@[simp] theorem settle_output (form : Sexp) (r : Except Error Sexp) (m : Machine) :
    (settle debug traceback form r m).output = m.output ++ answer debug traceback form r := by
  cases r <;> rfl

/-- An entry adds its text in front of what is printed after it. -/
theorem output_of_settle {entry : Entry} {entries : List Entry} {m m₁ m' : Machine}
    (hprinted : m₁.output = m.output ++ entry.printed)
    (houtput : m'.output = (settle debug traceback entry.form entry.result m₁).output ++
      transcript debug traceback entries) :
    m'.output = m.output ++ transcript debug traceback (entry :: entries) := by
  rw [houtput, settle_output, hprinted, transcript_cons, Entry.text]
  simp only [String.append_assoc]

theorem runForms_cons {fuel : Nat} {form : Sexp} {m m' : Machine} {r : Except Error Sexp}
    (h : evaluate fuel form m = some (r, m')) (status : Nat) (forms : List Sexp) :
    runForms fuel debug traceback status (form :: forms) m =
      runForms fuel debug traceback (if r.isOk then status else 1) forms
        (settle debug traceback form r m') := by
  rw [runForms, h]
  cases r <;> rfl

/-- A finished run through forms is a session. -/
theorem session_of_runForms {fuel : Nat} {status status' : Nat} {forms : List Sexp}
    {m m' : Machine} (h : runForms fuel debug traceback status forms m = some (status', m')) :
    ∃ entries, Session m.env entries m'.env ∧ entries.map Entry.form = forms ∧
      status' = statusAfter status entries ∧
      m'.output = m.output ++ transcript debug traceback entries := by
  induction forms generalizing status m with
  | nil =>
    cases h
    exact ⟨[], .nil, rfl, rfl, String.append_empty.symm⟩
  | cons form forms ih =>
    cases hrun : evaluate fuel form m with
    | none =>
      rw [runForms, hrun] at h
      cases h
    | some p =>
      obtain ⟨r, m₁⟩ := p
      rw [runForms_cons hrun] at h
      obtain ⟨printed, heval, hprinted⟩ := Evaluates.environment ⟨fuel, hrun⟩
      obtain ⟨entries, hsession, hforms, hstatus, houtput⟩ := ih h
      rw [settle_env] at hsession
      refine ⟨⟨form, r, printed⟩ :: entries, .cons heval hsession, ?_, ?_, ?_⟩
      · rw [List.map_cons, hforms]
      · rw [statusAfter_cons, hstatus]
      · exact output_of_settle hprinted houtput

variable (debug traceback) in
/-- The forms of a session are run through with enough fuel, whatever forms come after them. -/
theorem Session.runForms_append {env env' : Environment} {entries : List Entry}
    (h : Session env entries env') (status : Nat) (m : Machine) (hm : m.env = env) :
    ∃ m' fuel, m'.env = env' ∧ m'.output = m.output ++ transcript debug traceback entries ∧
      ∀ fuel' ≥ fuel, ∀ after,
        runForms fuel' debug traceback status (entries.map Entry.form ++ after) m =
          runForms fuel' debug traceback (statusAfter status entries) after m' := by
  induction h generalizing status m with
  | nil => exact ⟨m, 0, hm, String.append_empty.symm, fun _ _ _ => rfl⟩
  | @cons env env₁ env' entry entries head tail ih =>
    subst hm
    obtain ⟨m₁, ⟨fuel₁, hrun⟩, henv, hprinted⟩ := head.machine
    obtain ⟨m', fuel₂, henv', houtput, hrest⟩ :=
      ih (if entry.result.isOk then status else 1)
        (settle debug traceback entry.form entry.result m₁) (by rw [settle_env, henv])
    refine ⟨m', max fuel₁ fuel₂, henv', output_of_settle hprinted houtput, ?_⟩
    intro fuel' hfuel after
    have hhead := evaluate_mono (by omega : fuel₁ ≤ fuel') hrun
    rw [List.map_cons, List.cons_append, runForms_cons hhead, hrest fuel' (by omega),
      ← statusAfter_cons]

end

/-- The values of forms are those of a session without errors, after which the forms end or the next
    one fails. -/
theorem session_of_iterate {fuel : Nat} {forms values : List Sexp} {failure : Option Error}
    {m m' : Machine} (h : iterate fuel forms m = some ((values, failure), m')) :
    ∃ entries env, Session m.env entries env ∧ entries.map Entry.result = values.map .ok ∧
      ((failure = none ∧ forms = entries.map Entry.form ∧ env = m'.env) ∨
        ∃ e form after printed, failure = some e ∧ forms = entries.map Entry.form ++ form :: after ∧
          env.Evaluates form (.error e) printed m'.env) := by
  induction forms generalizing m values with
  | nil =>
    cases h
    exact ⟨[], m'.env, .nil, rfl, Or.inl ⟨rfl, rfl, rfl⟩⟩
  | cons form forms ih =>
    rw [iterate] at h
    split at h
    · cases h
    · next e m₁ hrun =>
      cases h
      obtain ⟨printed, heval, -⟩ := Evaluates.environment ⟨fuel, hrun⟩
      exact ⟨[], m.env, .nil, rfl, Or.inr ⟨e, form, forms, printed, rfl, rfl, heval⟩⟩
    · next value m₁ hrun =>
      split at h
      · cases h
      · next hruns =>
        cases h
        obtain ⟨printed, heval, -⟩ := Evaluates.environment ⟨fuel, hrun⟩
        obtain ⟨entries, env, hsession, hresults, hend⟩ := ih hruns
        refine ⟨⟨form, .ok value, printed⟩ :: entries, env, .cons heval hsession,
          by rw [List.map_cons, List.map_cons, hresults], ?_⟩
        rcases hend with ⟨hnone, hforms, henv⟩ | ⟨e, failed, after, last, hsome, hforms, hfails⟩
        · exact Or.inl ⟨hnone, by rw [hforms, List.map_cons], henv⟩
        · exact Or.inr ⟨e, failed, after, last, hsome,
            by rw [hforms, List.map_cons, List.cons_append], hfails⟩

theorem isOk_of_values {entries : List Entry} {values : List Sexp}
    (h : entries.map Entry.result = values.map .ok) :
    ∀ entry ∈ entries, entry.result.isOk = true := by
  intro entry hentry
  have hmem : entry.result ∈ values.map .ok := h ▸ List.mem_map_of_mem hentry
  obtain ⟨value, -, hvalue⟩ := List.mem_map.1 hmem
  rw [← hvalue]
  rfl

theorem statusAfter_of_values {entries : List Entry} {values : List Sexp}
    (h : entries.map Entry.result = values.map .ok) (status : Nat) :
    statusAfter status entries = status :=
  if_pos (List.all_eq_true.2 (isOk_of_values h))

/-! ## Programs -/

/-- What is printed at the end of a program: a report of the error that ended its reading, if one
    did. -/
def ending (debug : Bool) (traceback : Traceback) : Option Error → String
  | none => ""
  | some e => report debug e.message (traceback (.readingFailed e))

/-- The status of a program: 0 if it was read to its end and no form failed, and else 1. -/
def finalStatus (failure : Option Error) (entries : List Entry) : Nat :=
  if failure = none ∧ ∀ entry ∈ entries, entry.result.isOk = true then 0 else 1

/-- The program runs to its end on the machine `m`: it gives `status`, prints `text` and leaves the
    machine `m'`. -/
def Runs (debug : Bool) (traceback : Traceback) (source : String) (m : Machine) (status : Nat)
    (text : String) (m' : Machine) : Prop :=
  (∃ fuel, run fuel debug source m traceback = some (status, m')) ∧ m'.output = m.output ++ text

section

variable (debug : Bool) (traceback : Traceback)

theorem conclude_env (failure : Option Error) (p : Nat × Machine) :
    (conclude debug traceback failure p).2.env = p.2.env := by
  cases failure <;> rfl

theorem conclude_output (failure : Option Error) (p : Nat × Machine) :
    (conclude debug traceback failure p).2.output =
      p.2.output ++ ending debug traceback failure := by
  cases failure with
  | none => exact String.append_empty.symm
  | some e => rfl

theorem conclude_status (failure : Option Error) (entries : List Entry) (m : Machine) :
    (conclude debug traceback failure (statusAfter 0 entries, m)).1 =
      finalStatus failure entries := by
  cases failure with
  | none => simp [conclude, statusAfter, finalStatus]
  | some e => simp [conclude, finalStatus]

variable {debug traceback} in
/-- A program that runs to its end goes through the session of its forms. -/
theorem Runs.session {source : String} {m m' : Machine} {status : Nat} {text : String}
    (h : Runs debug traceback source m status text m') :
    ∃ entries, Session m.env entries m'.env ∧ entries.map Entry.form = (read source).forms ∧
      text = transcript debug traceback entries ++ ending debug traceback (read source).failure ∧
      status = finalStatus (read source).failure entries := by
  obtain ⟨⟨fuel, hrun⟩, htext⟩ := h
  rw [run_eq_map] at hrun
  obtain ⟨⟨status₁, m₁⟩, hforms, hend⟩ := Option.map_eq_some_iff.1 hrun
  obtain ⟨entries, hsession, hread, rfl, houtput⟩ := session_of_runForms hforms
  have henv := conclude_env debug traceback (read source).failure (statusAfter 0 entries, m₁)
  have hprinted := conclude_output debug traceback (read source).failure (statusAfter 0 entries, m₁)
  have hstatus := conclude_status debug traceback (read source).failure entries m₁
  rw [hend] at henv hprinted hstatus
  refine ⟨entries, henv ▸ hsession, hread, ?_, hstatus⟩
  rw [htext, houtput, String.append_assoc] at hprinted
  exact (String.append_right_inj _).1 hprinted

/-- The session of the forms of a program is run through by the program. -/
theorem Session.runs {m : Machine} {env' : Environment} {entries : List Entry} {source : String}
    (h : Session m.env entries env') (hforms : entries.map Entry.form = (read source).forms) :
    ∃ m', m'.env = env' ∧ Runs debug traceback source m (finalStatus (read source).failure entries)
      (transcript debug traceback entries ++ ending debug traceback (read source).failure) m' := by
  obtain ⟨m₁, fuel, henv, houtput, hruns⟩ := h.runForms_append debug traceback 0 m rfl
  have hrun := hruns fuel (Nat.le_refl fuel) []
  rw [List.append_nil, hforms] at hrun
  refine ⟨(conclude debug traceback (read source).failure (statusAfter 0 entries, m₁)).2, ?_,
    ⟨fuel, ?_⟩, ?_⟩
  · rw [conclude_env, henv]
  · rw [run_eq_map, hrun, ← conclude_status debug traceback _ entries m₁]
    rfl
  · rw [conclude_output, houtput, String.append_assoc]

/-- Running the program on the machine `m` goes through the entries `before` and comes to report the
    error `e` on the machine `n`. A form that failed is reported when it has left its environment
    and what it printed, and the tokens `rest` after it are still to be read and run; an error in
    reading is reported last. -/
inductive Reports (debug : Bool) (traceback : Traceback) (source : String) (m : Machine)
    (before : List Entry) (e : Error) (n : Machine) : Prop where
  | evaluation {env : Environment} {form : Sexp} {rest : List Token} {printed : String}
      (session : Session m.env before env)
      (forms : (read source).forms =
        before.map Entry.form ++ form :: (Reading.ofTokens rest).forms)
      (failure : (read source).failure = (Reading.ofTokens rest).failure)
      (fails : env.Evaluates form (.error e) printed n.env)
      (output : n.output = m.output ++ (transcript debug traceback before ++ printed))
      (reported : ∃ fuel, ∀ fuel' ≥ fuel, run fuel' debug source m traceback =
        runTokens fuel' debug traceback 1 rest (fail debug traceback (.evaluationFailed form e) e n))
  | reading (session : Session m.env before n.env)
      (forms : (read source).forms = before.map Entry.form)
      (failure : (read source).failure = some e)
      (output : n.output = m.output ++ transcript debug traceback before)
      (reported : ∃ fuel, ∀ fuel' ≥ fuel, run fuel' debug source m traceback =
        some (1, fail debug traceback (.readingFailed e) e n))

/-- After a session without errors, a form that fails is reported. -/
theorem Session.reports_evaluation {m : Machine} {env env' : Environment} {entries : List Entry}
    {values after : List Sexp} {source printed : String} {form : Sexp} {e : Error}
    (h : Session m.env entries env) (hvalues : entries.map Entry.result = values.map .ok)
    (hforms : (read source).forms = entries.map Entry.form ++ form :: after)
    (hfails : env.Evaluates form (.error e) printed env') :
    ∃ n, n.env = env' ∧ Reports debug traceback source m entries e n := by
  obtain ⟨m₁, fuel₁, rfl, houtput, hruns⟩ := h.runForms_append debug traceback 0 m rfl
  obtain ⟨n, ⟨fuel₂, hrun⟩, rfl, hprinted⟩ := hfails.machine
  obtain ⟨rest, rfl, hfailure⟩ := Reading.exists_rest_of_forms (hforms.trans (List.append_cons ..))
  refine ⟨n, rfl, .evaluation h hforms hfailure.symm hfails ?_ ⟨max fuel₁ fuel₂, ?_⟩⟩
  · rw [hprinted, houtput, String.append_assoc]
  · intro fuel' hfuel
    have hform := evaluate_mono (by omega : fuel₂ ≤ fuel') hrun
    rw [run_eq_map, hforms, hruns fuel' (by omega), statusAfter_of_values hvalues,
      runForms_cons hform, runTokens_eq_map, hfailure]
    rfl

/-- After a session without errors, an error in reading is reported. -/
theorem Session.reports_reading {m : Machine} {env' : Environment} {entries : List Entry}
    {source : String} {e : Error} (h : Session m.env entries env')
    (hforms : (read source).forms = entries.map Entry.form)
    (hfailure : (read source).failure = some e) :
    ∃ n, n.env = env' ∧ Reports debug traceback source m entries e n := by
  obtain ⟨n, fuel, rfl, houtput, hruns⟩ := h.runForms_append debug traceback 0 m rfl
  refine ⟨n, rfl, .reading h hforms hfailure houtput ⟨fuel, ?_⟩⟩
  intro fuel' hfuel
  have hrun := hruns fuel' hfuel []
  rw [List.append_nil] at hrun
  rw [run_eq_map, hforms, hrun, hfailure]
  rfl

end

theorem iterate_of_values {fuel : Nat} {source : String} {m m' : Machine} {vs : List Sexp}
    {failure : Option Error} (h : values fuel source m = some ((vs, failure), m')) :
    ∃ failure₁, iterate fuel (read source).forms m = some ((vs, failure₁), m') ∧
      failure = failure₁.or (read source).failure := by
  rw [values_eq_map, Option.map_eq_some_iff] at h
  obtain ⟨⟨⟨vs₁, failure₁⟩, m₁⟩, hruns, hend⟩ := h
  cases hend
  exact ⟨failure₁, hruns, rfl⟩

/-- Running a program evaluates exactly the forms that were read, in order and each in the
    environment that the one before it left, whether that one failed or not. It prints the transcript
    of this session and then a report if reading failed, and the status is 0 just if nothing failed.
    If the values of the program come without an error, the run gives status 0, leaves the same
    environment and prints these values. If they end with an error, the run prints the values before
    it and then reports this error first, in the same environment. All this holds whatever the
    tracebacks in reports say. -/
theorem run_follows_session (debug : Bool) (traceback : Traceback) (source : String) (m : Machine) :
    (∀ status text env', (∃ m', m'.env = env' ∧ Runs debug traceback source m status text m') ↔
      ∃ entries, Session m.env entries env' ∧ entries.map Entry.form = (read source).forms ∧
        text = transcript debug traceback entries ++ ending debug traceback (read source).failure ∧
        status = finalStatus (read source).failure entries) ∧
      (∀ fuel vs m', values fuel source m = some ((vs, none), m') →
        ∃ entries n, Session m.env entries m'.env ∧
          entries.map Entry.form = (read source).forms ∧ entries.map Entry.result = vs.map .ok ∧
          n.env = m'.env ∧ Runs debug traceback source m 0 (transcript debug traceback entries) n) ∧
      ∀ fuel vs e m', values fuel source m = some ((vs, some e), m') →
        ∃ before n, before.map Entry.result = vs.map .ok ∧ n.env = m'.env ∧
          Reports debug traceback source m before e n := by
  refine ⟨fun status text env' => ⟨?_, ?_⟩, ?_, ?_⟩
  · rintro ⟨m', rfl, hruns⟩
    exact hruns.session
  · rintro ⟨entries, hsession, hforms, rfl, rfl⟩
    exact hsession.runs debug traceback hforms
  · intro fuel vs m' h
    obtain ⟨failure, hiterate, hnone⟩ := iterate_of_values h
    obtain ⟨rfl, hread⟩ := Option.or_eq_none_iff.1 hnone.symm
    obtain ⟨entries, env, hsession, hresults, ⟨-, hforms, rfl⟩ | ⟨_, _, _, _, hsome, _⟩⟩ :=
      session_of_iterate hiterate
    · obtain ⟨n, henv, hruns⟩ := hsession.runs debug traceback hforms.symm
      rw [finalStatus, if_pos ⟨hread, isOk_of_values hresults⟩, hread, ending,
        String.append_empty] at hruns
      exact ⟨entries, n, hsession, hforms.symm, hresults, henv, hruns⟩
    · cases hsome
  · intro fuel vs e m' h
    obtain ⟨failure, hiterate, hsome⟩ := iterate_of_values h
    obtain ⟨entries, env, hsession, hresults, ⟨rfl, hforms, rfl⟩ | hfailed⟩ :=
      session_of_iterate hiterate
    · obtain ⟨n, henv, hreports⟩ := hsession.reports_reading debug traceback hforms hsome.symm
      exact ⟨entries, n, hresults, henv, hreports⟩
    · obtain ⟨e', form, after, printed, rfl, hforms, hfails⟩ := hfailed
      cases hsome
      obtain ⟨n, henv, hreports⟩ :=
        hsession.reports_evaluation debug traceback hresults hforms hfails
      exact ⟨entries, n, hresults, henv, hreports⟩

/-- `(PRINT 1) (CAR 1) 2 )` has two errors. The run goes on after the first one and stops at the
    second; the values stop at the first, where the run reports it. -/
theorem run_follows_session_two_errors :
    let source := "(PRINT 1) (CAR 1) 2 )"
    let error := "Error occurred!\nSpecify '-d' to debug the error!\n"
    (∃ entries env', Session {} entries env' ∧ entries.map Entry.form = (read source).forms ∧
      "1\n1\n" ++ error ++ "2\n" ++ error =
        transcript false .mark entries ++ ending false .mark (read source).failure) ∧
      ∃ vs e m', values 9 source {} = some ((vs, some e), m') ∧ vs.map Sexp.render = ["1"] ∧
        ∃ before n, before.map Entry.result = vs.map .ok ∧ n.env = m'.env ∧
          Reports false .mark source {} before e n := by
  intro source error
  have hlaw := run_follows_session false .mark source {}
  refine ⟨?_, ?_⟩
  · have hrun : ((run 9 false source {}).map fun p => (p.1, p.2.output)) =
        some (1, "1\n1\n" ++ error ++ "2\n" ++ error) := by decide +kernel
    obtain ⟨⟨status, m'⟩, hrun, hend⟩ := Option.map_eq_some_iff.1 hrun
    obtain ⟨rfl, houtput⟩ := Prod.mk.inj hend
    have hruns : Runs false .mark source {} 1 ("1\n1\n" ++ error ++ "2\n" ++ error) m' :=
      ⟨⟨9, hrun⟩, by rw [houtput, String.empty_append]⟩
    obtain ⟨entries, hsession, hforms, htext, -⟩ := (hlaw.1 _ _ _).1 ⟨m', rfl, hruns⟩
    exact ⟨entries, m'.env, hsession, hforms, htext⟩
  · have hvalues : ((values 9 source {}).map fun p => (p.1.1.map Sexp.render, p.1.2.isSome)) =
        some (["1"], true) := by decide +kernel
    obtain ⟨⟨⟨vs, failure⟩, m'⟩, hvalues, hend⟩ := Option.map_eq_some_iff.1 hvalues
    obtain ⟨hvs, hfailure⟩ := Prod.mk.inj hend
    obtain ⟨e, rfl⟩ := Option.isSome_iff_exists.1 hfailure
    exact ⟨vs, e, m', hvalues, hvs, hlaw.2.2 9 vs e m' hvalues⟩

end Program

end MiniLisp
