import FirmwareGlue.Proofs.Markup.Content

/-!
# What a reader delivers

A reader checks that end tags match and nothing else about a document as a whole, so at any time the
events so far are well-nested markup of which some elements may still be open. Such a stream is
whole markup, or whole markup with an open element behind it and a stream inside that. Every piece
of markup that is read makes a stream of a stream: text and whole elements stand in its innermost
open element, a start tag opens one more, and an end tag of the right name closes the innermost one.
So whatever document is read, its events are those of a stream.
-/

namespace FirmwareGlue.Markup

namespace Content

def append : Content → Content → Content
  | nil, later => later
  | text raw rest, later => text raw (rest.append later)
  | cdata literal rest, later => cdata literal (rest.append later)
  | empty tag rest, later => empty tag (rest.append later)
  | element tag inside rest, later => element tag inside (rest.append later)

theorem events_append (first later : Content) :
    (first.append later).events = first.events ++ later.events := by
  induction first with
  | nil => rfl
  | text raw rest ih => simp [append, events, ih]
  | cdata literal rest ih => simp [append, events, ih]
  | empty tag rest ih => simp [append, events, ih]
  | element tag inside rest _ ih => simp [append, events, ih]

theorem elements_append (first later : Content) :
    (first.append later).elements = first.elements ++ later.elements := by
  induction first with
  | nil => rfl
  | text raw rest ih | cdata literal rest ih => exact ih
  | empty tag rest ih => simp [append, elements, ih]
  | element tag inside rest _ ih => simp [append, elements, ih]

theorem names_append (first later : Content) :
    (first.append later).names = first.names ++ later.names := by
  induction first with
  | nil => rfl
  | text raw rest ih | cdata literal rest ih => exact ih
  | empty tag rest ih => simp [append, names, ih]
  | element tag inside rest _ ih => simp [append, names, ih]

theorem leavesApart_append (first later : Content) :
    (first.append later).LeavesApart ↔ first.LeavesApart ∧ later.LeavesApart := by
  induction first with
  | nil => simp [append, LeavesApart]
  | text raw rest ih | cdata literal rest ih | empty tag rest ih => exact ih
  | element tag inside rest _ ih => simp [append, LeavesApart, ih, and_assoc]

/-- Markup with elements, taken apart at the first one. -/
theorem exists_first {c : Content} {e : Element} {others : List Element}
    (first : c.elements = e :: others) : ∃ before rest : Content,
      c.events = before.events ++ (e.events ++ rest.events) ∧ before.elements = [] ∧
        rest.elements = others := by
  induction c with
  | nil => cases first
  | text raw rest ih =>
      obtain ⟨before, later, same, none, behind⟩ := ih first
      exact ⟨text raw before, later, by simp [events, same], none, behind⟩
  | cdata literal rest ih =>
      obtain ⟨before, later, same, none, behind⟩ := ih first
      exact ⟨cdata literal before, later, by simp [events, same], none, behind⟩
  | empty tag rest _ =>
      cases first
      exact ⟨nil, rest, events_empty tag rest, rfl, rfl⟩
  | element tag inside rest _ _ =>
      cases first
      exact ⟨nil, rest, events_element tag inside rest, rfl, rfl⟩

end Content

/-- Markup of which some elements may be open. -/
inductive Stream where
  | whole (c : Content)
  | broken (before : Content) (tag : Tag) (inside : Stream)

namespace Stream

def events : Stream → List Event
  | whole c => c.events
  | broken before tag inside => before.events ++ .opening tag :: inside.events

/-- The names of the open elements, innermost first. -/
def openNames : Stream → List String
  | whole _ => []
  | broken _ tag inside => inside.openNames ++ [tag.name]

/-- The markup with every open element closed. -/
def closed : Stream → Content
  | whole c => c
  | broken before tag inside => before.append (.element tag inside.closed .nil)

variable {s t : Stream}

/-- A stream continues another by some events, with other elements open. -/
structure Continues (s : Stream) (more : List Event) (names : List String) (t : Stream) : Prop where
  events : t.events = s.events ++ more
  openNames : t.openNames = names

/-- Whole markup stands inside the innermost open element. -/
theorem exists_content (s : Stream) (more : Content) :
    ∃ t, s.Continues more.events s.openNames t := by
  induction s with
  | whole c => exact ⟨whole (c.append more), Content.events_append c more, rfl⟩
  | broken before tag inside ih =>
      obtain ⟨t, events, names⟩ := ih
      refine ⟨broken before tag t, ?_, ?_⟩
      · simp [Stream.events, events]
      · simp [openNames, names]

/-- A start tag opens one more element. -/
theorem exists_opening (s : Stream) (tag : Tag) :
    ∃ t, s.Continues [.opening tag] (tag.name :: s.openNames) t := by
  induction s with
  | whole c => exact ⟨broken c tag (whole .nil), rfl, rfl⟩
  | broken before outer inside ih =>
      obtain ⟨t, events, names⟩ := ih
      refine ⟨broken before outer t, ?_, ?_⟩
      · simp [Stream.events, events]
      · simp [openNames, names]

theorem whole_of_openNames (none : s.openNames = []) : ∃ c, s = whole c := by
  cases s with
  | whole c => exact ⟨c, rfl⟩
  | broken before tag inside => simp [openNames] at none

/-- The end tag of the innermost open element closes it. -/
theorem exists_closing {name : String} {names : List String}
    (tracked : s.openNames = name :: names) :
    ∃ t, s.Continues [.closing name] names t := by
  induction s generalizing names with
  | whole c => cases tracked
  | broken before tag inside ih =>
      simp only [openNames] at tracked
      cases within : inside.openNames with
      | nil =>
          obtain ⟨c, rfl⟩ := whole_of_openNames within
          rw [within] at tracked
          cases tracked
          refine ⟨whole (before.append (.element tag c .nil)), ?_, rfl⟩
          simp [events, Content.events_append, Content.events]
      | cons innermost others =>
          rw [within] at tracked
          cases tracked
          obtain ⟨t, events, names⟩ := ih within
          refine ⟨broken before tag t, ?_, ?_⟩
          · simp [Stream.events, events]
          · simp [openNames, names]

end Stream

namespace Reader

/-- What the reader does to the open elements with the events of one step. -/
inductive Moves (r next : Reader) : List Event → Prop where
  | content (c : Content) (same : next.openNames = r.openNames) : Moves r next c.events
  | opening (tag : Tag) (opened : next.openNames = tag.name :: r.openNames) :
      Moves r next [.opening tag]
  | closing (name : String) (closed : r.openNames = name :: next.openNames) :
      Moves r next [.closing name]

variable {r next : Reader} {events : List Event}

theorem moves_of_stay {place : Place} (h : r.stay place = .ok (events, next)) :
    Moves r next events := by
  cases h
  exact .content .nil rfl

theorem moves_of_resume (c : Content) (h : r.resume c.events = .ok (events, next)) :
    Moves r next events := by
  cases h
  exact .content c rfl

theorem moves_of_endClosing {inside : List Char} (h : r.endClosing inside = .ok (events, next)) :
    Moves r next events := by
  rw [endClosing] at h
  split at h
  next => cases h
  next innermost others here =>
    split at h
    next same =>
      cases h
      exact .closing _ (by rw [here, same])
    next => cases h

theorem moves_of_endTag {inside : List Char} (h : r.endTag inside = .ok (events, next)) :
    Moves r next events := by
  rw [endTag] at h
  split at h
  next => exact moves_of_endClosing h
  next =>
    split at h
    next =>
      cases read : Tag.read inside.dropLast with
      | error fault => simp [read, bind, Except.bind] at h
      | ok tag =>
          simp only [read, bind, Except.bind] at h
          exact moves_of_resume (.empty tag .nil) h
    next =>
      cases read : Tag.read inside with
      | error fault => simp [read, bind, Except.bind] at h
      | ok tag =>
          simp only [read, bind, Except.bind] at h
          cases h
          exact .opening tag rfl

theorem moves_of_endCData {inside : List Char} (h : r.endCData inside = .ok (events, next)) :
    Moves r next events := by
  rw [endCData] at h
  split at h
  next => exact moves_of_resume (.cdata _ .nil) h
  next => cases h

theorem moves_of_endDoctype {inside : List Char} (h : r.endDoctype inside = .ok (events, next)) :
    Moves r next events := by
  rw [endDoctype] at h
  split at h
  next =>
    split at h
    next => cases h
    next => exact moves_of_resume .nil h
  next => cases h

theorem exists_textEvent (run : List Char) : ∃ c : Content, textEvent run = c.events := by
  rw [textEvent]
  split
  next => exact ⟨.nil, rfl⟩
  next trimmed _ => exact ⟨.text _ .nil, rfl⟩

theorem moves_of_step {c : Char} (h : r.step c = .ok (events, next)) : Moves r next events := by
  rw [step] at h
  split at h
  next run here =>
    split at h
    next =>
      cases h
      obtain ⟨text, same⟩ := exists_textEvent run
      rw [same]
      exact .content text rfl
    next => exact moves_of_stay h
  all_goals
    repeat' split at h
    all_goals first
      | exact moves_of_stay h
      | exact moves_of_endTag h
      | exact moves_of_endCData h
      | exact moves_of_endDoctype h
      | exact moves_of_resume .nil h
      | cases h

/-- Every step of the reader makes a stream of a stream. -/
theorem exists_stream_of_step {s : Stream} {c : Char} (tracked : s.openNames = r.openNames)
    (h : r.step c = .ok (events, next)) : ∃ t, s.Continues events next.openNames t := by
  cases moves_of_step h with
  | content c same =>
      rw [same, ← tracked]
      exact s.exists_content c
  | opening tag opened =>
      rw [opened, ← tracked]
      exact s.exists_opening tag
  | closing name closed => exact Stream.exists_closing (tracked.trans closed)

/-- The reader delivers a stream. -/
theorem exists_stream_of_run {s : Stream} {seen : List Event} (cs : List Char)
    (delivered : s.events = seen.reverse) (tracked : s.openNames = r.openNames) :
    ∃ t : Stream, t.events = (r.run seen cs).events := by
  induction cs generalizing r seen s with
  | nil =>
      have last : ∃ c : Content, r.finish.1 = c.events := by
        rw [finish]
        split
        next run _ => exact exists_textEvent run
        all_goals exact ⟨.nil, rfl⟩
      obtain ⟨c, same⟩ := last
      obtain ⟨t, events, _⟩ := s.exists_content c
      exact ⟨t, by rw [events, delivered, run, same]⟩
  | cons c cs ih =>
      rw [run]
      cases stepped : r.step c with
      | error fault => exact ⟨s, delivered⟩
      | ok result =>
          obtain ⟨events, next⟩ := result
          obtain ⟨t, more, names⟩ := exists_stream_of_step tracked stepped
          exact ih (s := t) (by simp [more, delivered]) names

end Reader

/-- Whatever document is read, its events are those of a stream. -/
theorem Transcript.exists_stream (document : String) :
    ∃ s : Stream, s.events = (ofText document).events := by
  have from_start (cs : List Char) :
      ∃ s : Stream, s.events = (Reader.run ⟨.text [], []⟩ [] cs).events :=
    Reader.exists_stream_of_run (s := .whole .nil) cs rfl rfl
  rw [ofText]
  split
  next => exact from_start []
  next c cs _ =>
    split
    next => exact from_start cs
    next => exact from_start (c :: cs)

end FirmwareGlue.Markup
