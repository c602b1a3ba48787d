import MiniLisp.Editor.Documents
import MiniLisp.Proofs.Table

/-! # Documents follow their events

An editor reports that documents are opened, changed and closed, in any order and at many addresses.
What is kept and what is published for an address is decided by the last event there. Only a change
that brings no text looks further back, to the text that was kept before it. -/

namespace MiniLisp.Editor

/-! ## Events -/

/-- What an editor reports about the document at an address. -/
inductive DocumentEvent where
  | opened (uri text : String)
  /-- Each of the texts is a whole text, and the last one is the newest. -/
  | changed (uri : String) (texts : List String)
  | closed (uri : String)

namespace DocumentEvent

def uri : DocumentEvent → String
  | .opened uri _ => uri
  | .changed uri _ => uri
  | .closed uri => uri

/-- Whether the document is open after the event. -/
def leavesOpen : DocumentEvent → Bool
  | .opened _ _ => true
  | .changed _ _ => true
  | .closed _ => false

/-- The text of the document after the event, if it is open then. `before` is the text that it had,
    if it was open. -/
def textAfter (before : Option String) : DocumentEvent → Option String
  | .opened _ text => some text
  | .changed _ texts => some (texts.getLast?.getD (before.getD ""))
  | .closed _ => none

/-- What is done with the open documents, and what is published. -/
def perform (docs : Documents) : DocumentEvent → Documents × Publication
  | .opened uri text => docs.didOpen uri text
  | .changed uri texts => docs.didChange uri texts
  | .closed uri => docs.didClose uri

theorem isSome_textAfter (before : Option String) (e : DocumentEvent) :
    (e.textAfter before).isSome = e.leavesOpen := by
  cases e <;> rfl

/-- An event sets the text of its document, or takes the document away. -/
theorem perform_eq (docs : Documents) (e : DocumentEvent) :
    e.perform docs =
      match e.textAfter ((docs.get? e.uri).map Document.text) with
      | some text => docs.update e.uri text
      | none => (docs.erase e.uri, ⟨e.uri, []⟩) := by
  cases e with
  | opened uri text => rfl
  | changed uri texts =>
    simp only [perform, Documents.didChange, textAfter, DocumentEvent.uri]
    cases texts.getLast? with
    | none => rfl
    | some text => rfl
  | closed uri => rfl

end DocumentEvent

/-! ## Servers -/

/-- The open documents, and all that was published about them, the latest at the end. -/
structure Server where
  docs : Documents := ∅
  published : List Publication := []

namespace Server

def handle (s : Server) (e : DocumentEvent) : Server where
  docs := (e.perform s.docs).1
  published := s.published ++ [(e.perform s.docs).2]

/-- A server that began without documents and handled events one after the other. -/
def after (events : List DocumentEvent) : Server := events.foldl handle {}

/-- The text that is kept for an address. -/
def text? (s : Server) (uri : String) : Option String := (s.docs.get? uri).map Document.text

/-- The diagnostics that were published last for an address. -/
def shown? (s : Server) (uri : String) : Option (List Diagnostic) :=
  (s.published.filter fun p => p.uri = uri).getLast?.map Publication.diagnostics

/-- What is kept and shown for an address agrees with a text: the document has this text and its
    index, and the diagnostics of the index are shown. Without a text there is no document, and no
    diagnostics are left. -/
structure Agrees (s : Server) (uri : String) (text : Option String) : Prop where
  kept : s.docs.get? uri = text.map fun text => ⟨text, Index.of text⟩
  shown : s.shown? uri = some ((text.map fun text => (Index.of text).diagnostics).getD [])

variable {s : Server} {e : DocumentEvent} {uri : String}

theorem shown?_handle (s : Server) (e : DocumentEvent) (uri : String) :
    (s.handle e).shown? uri =
      if (e.perform s.docs).2.uri = uri then some (e.perform s.docs).2.diagnostics
      else s.shown? uri := by
  rw [shown?, handle, List.filter_append]
  by_cases h : (e.perform s.docs).2.uri = uri
  · simp [h]
  · simp [h, shown?]

/-- An event decides what is kept and shown for its own address. -/
theorem agrees_handle (h : e.uri = uri) : (s.handle e).Agrees uri (e.textAfter (s.text? uri)) := by
  subst h
  have hperform := e.perform_eq s.docs
  rw [text?]
  cases htext : e.textAfter ((s.docs.get? e.uri).map Document.text) with
  | none =>
    simp only [htext] at hperform
    refine ⟨?_, ?_⟩
    · rw [handle, hperform, Table.get?_erase, if_pos rfl]
      rfl
    · rw [shown?_handle, hperform, if_pos rfl]
      rfl
  | some text =>
    simp only [htext] at hperform
    refine ⟨?_, ?_⟩
    · rw [handle, hperform, Documents.update, Table.get?_insert, if_pos rfl]
      rfl
    · rw [shown?_handle, hperform, Documents.update, if_pos rfl]
      rfl

/-- An event at another address changes nothing. -/
theorem handle_of_ne (h : e.uri ≠ uri) :
    (s.handle e).docs.get? uri = s.docs.get? uri ∧ (s.handle e).shown? uri = s.shown? uri := by
  have hperform := e.perform_eq s.docs
  rw [shown?_handle, handle]
  split at hperform
  · rw [hperform, Documents.update, Table.get?_insert, if_neg h]
    exact ⟨rfl, if_neg h⟩
  · rw [hperform, Table.get?_erase, if_neg h]
    exact ⟨rfl, if_neg h⟩

/-! ## Runs -/

/-- Any number of events at other addresses change nothing. -/
theorem foldl_handle_of_ne {events : List DocumentEvent} (h : ∀ e ∈ events, e.uri ≠ uri) :
    (events.foldl handle s).docs.get? uri = s.docs.get? uri ∧
      (events.foldl handle s).shown? uri = s.shown? uri := by
  induction events generalizing s with
  | nil => exact ⟨rfl, rfl⟩
  | cons e events ih =>
    obtain ⟨hkept, hshown⟩ := handle_of_ne (s := s) (h e List.mem_cons_self)
    obtain ⟨hkept', hshown'⟩ :=
      ih (s := s.handle e) fun e' he' => h e' (List.mem_cons_of_mem e he')
    exact ⟨hkept'.trans hkept, hshown'.trans hshown⟩

/-- Among `events`, the last one at an address is `e`, which came after the events `before`. -/
def IsLast (uri : String) (events before : List DocumentEvent) (e : DocumentEvent) : Prop :=
  e.uri = uri ∧ ∃ later, events = before ++ e :: later ∧ ∀ e' ∈ later, e'.uri ≠ uri

theorem exists_isLast {events : List DocumentEvent} (h : ∃ e ∈ events, e.uri = uri) :
    ∃ before e, IsLast uri events before e := by
  induction events with
  | nil =>
    obtain ⟨e, he, -⟩ := h
    cases he
  | cons first events ih =>
    by_cases hlater : ∃ e ∈ events, e.uri = uri
    · obtain ⟨before, e, he, later, rfl, hothers⟩ := ih hlater
      exact ⟨first :: before, e, he, later, rfl, hothers⟩
    · have hfirst : first.uri = uri := by
        obtain ⟨e, he, huri⟩ := h
        rcases List.mem_cons.1 he with rfl | he
        · exact huri
        · exact absurd ⟨e, he, huri⟩ hlater
      exact ⟨[], first, hfirst, events, rfl, fun e he huri => hlater ⟨e, he, huri⟩⟩

/-- The last event at an address decides what is kept and shown there in the end. -/
theorem agrees_after {events before : List DocumentEvent} (h : IsLast uri events before e) :
    (after events).Agrees uri (e.textAfter ((after before).text? uri)) := by
  obtain ⟨huri, later, rfl, hlater⟩ := h
  have hdecided := agrees_handle (s := after before) huri
  have hrun : after (before ++ e :: later) = later.foldl handle ((after before).handle e) := by
    rw [after, List.foldl_append, List.foldl_cons, after]
  obtain ⟨hkept, hshown⟩ := foldl_handle_of_ne (s := (after before).handle e) hlater
  rw [hrun]
  exact ⟨hkept.trans hdecided.kept, hshown.trans hdecided.shown⟩

end Server

open Server in
/-- For all events and all addresses: the document at an address is open exactly if the last event
    there was an opening or a change. Its text is then the one that was opened, or that of the last
    change, or, for a change that brings none, the text before it, which is empty if there was none.
    Its index is that of this text, and the diagnostics that are shown are those of the index; after
    a closing none are left. An address without events has no document and nothing was published for
    it, and events at other addresses never change what is kept and shown. -/
theorem documents_follow_events (events : List DocumentEvent) (uri : String) :
    (uri ∈ (after events).docs.keys ↔
      ∃ before e, IsLast uri events before e ∧ e.leavesOpen = true) ∧
    (∀ before e, IsLast uri events before e →
      (after events).Agrees uri (e.textAfter ((after before).text? uri))) ∧
    ((∀ e ∈ events, e.uri ≠ uri) →
      (after events).docs.get? uri = none ∧ (after events).shown? uri = none) ∧
    ∀ (s : Server) (e : DocumentEvent), e.uri ≠ uri →
      (s.handle e).docs.get? uri = s.docs.get? uri ∧ (s.handle e).shown? uri = s.shown? uri := by
  have hnone : (∀ e ∈ events, e.uri ≠ uri) →
      (after events).docs.get? uri = none ∧ (after events).shown? uri = none :=
    foldl_handle_of_ne (s := {})
  refine ⟨⟨?_, ?_⟩, fun before e => agrees_after, hnone, fun s e => handle_of_ne⟩
  · intro hopen
    by_cases hevent : ∃ e ∈ events, e.uri = uri
    · obtain ⟨before, e, hlast⟩ := exists_isLast hevent
      have hkept := (agrees_after hlast).kept
      obtain ⟨doc, hdoc⟩ := Table.mem_keys_iff.1 hopen
      rw [hdoc] at hkept
      obtain ⟨text, htext, -⟩ := Option.map_eq_some_iff.1 hkept.symm
      refine ⟨before, e, hlast, ?_⟩
      rw [← e.isSome_textAfter, htext]
      rfl
    · have hkept := (hnone fun e he huri => hevent ⟨e, he, huri⟩).1
      exact absurd hopen (Table.get?_eq_none_iff.1 hkept)
  · rintro ⟨before, e, hlast, hopen⟩
    rw [← e.isSome_textAfter ((after before).text? uri)] at hopen
    obtain ⟨text, htext⟩ := Option.isSome_iff_exists.1 hopen
    have hkept := (agrees_after hlast).kept
    rw [htext] at hkept
    exact Table.mem_keys_iff.2 ⟨_, hkept⟩

/-- `a` is changed before it is opened, and last without a text; `b` is changed without a text after
    it was closed; `c` is closed; and nothing is reported about `d`. -/
theorem documents_follow_events_interleaved :
    let events : List DocumentEvent :=
      [.changed "a" [], .opened "b" "(f", .changed "a" ["(g)", "T"], .opened "c" "x", .closed "b",
       .changed "a" [], .changed "b" [], .closed "c"]
    let s := Server.after events
    s.Agrees "a" (some "T") ∧ s.Agrees "b" (some "") ∧ s.Agrees "c" none ∧
      "a" ∈ s.docs.keys ∧ "c" ∉ s.docs.keys ∧ s.shown? "d" = none := by
  intro events s
  have ha : Server.IsLast "a" events (events.take 5) (.changed "a" []) :=
    ⟨rfl, events.drop 6, rfl, by simp [events, DocumentEvent.uri]⟩
  have hb : Server.IsLast "b" events (events.take 6) (.changed "b" []) :=
    ⟨rfl, events.drop 7, rfl, by simp [events, DocumentEvent.uri]⟩
  have hc : Server.IsLast "c" events (events.take 7) (.closed "c") := ⟨rfl, [], rfl, nofun⟩
  have hd : ∀ e ∈ events, e.uri ≠ "d" := by simp [events, DocumentEvent.uri]
  have hc' := (documents_follow_events events "c").2.1 _ _ hc
  exact ⟨(documents_follow_events events "a").2.1 _ _ ha,
    (documents_follow_events events "b").2.1 _ _ hb, hc',
    (documents_follow_events events "a").1.2 ⟨_, _, ha, rfl⟩,
    Table.get?_eq_none_iff.1 hc'.kept, ((documents_follow_events events "d").2.2.1 hd).2⟩

end MiniLisp.Editor
