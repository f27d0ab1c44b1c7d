import SandboxNet.Proofs.Netns.Calls
import SandboxNet.Proofs.Netns.Record

/-! # Programs that change one link

A program `Makes` a change when a single call of it carries the change out on the record of one
link. A loop of such programs leaves what `LinkRecord.Edits` says, whichever call of it is the last.
-/

namespace SandboxNet.Netns

open Program LinkRecord

variable {β : Type} {faulty : Prop} {link : Link} {s : Netns} {r : LinkRecord}

/-- How one change of a link ends. -/
inductive Made (faulty : Prop) (s : Netns) (link : Link)
    (change : LinkRecord → Except Error LinkRecord) (r : LinkRecord) :
    Except Error Unit → Netns → Prop where
  | made {r' : LinkRecord} (h : change r = .ok r') :
      Made faulty s link change r (.ok ()) (s.put link.name r')
  | refused {e : Error} (h : change r = .error e) : Made faulty s link change r (.error e) s
  | failed (h : faulty) (e : Error) : Made faulty s link change r (.error e) s

/-- A program that makes one change of a link. -/
def Makes (faulty : Prop) (link : Link) (change : LinkRecord → Except Error LinkRecord)
    (p : Program Unit) : Prop :=
  ∀ s r, s.record? link = some r → p.Always (Answers faulty) s (Made faulty s link change r)

/-- What a program does when its first call is the change and the rest only writes to the log. -/
theorem always_made {request : Call} {tail : request.Answer → Program Unit}
    {change : LinkRecord → Except Error LinkRecord} {answer : request.Answer}
    (performs : s.perform request = (change r).map fun r' => (answer, s.put link.name r'))
    (quiet : ∀ s Q, Q (.ok ()) s → (tail answer).Always (Answers faulty) s Q) :
    (ask request >>= tail).Always (Answers faulty) s (Made faulty s link change r) := by
  cases changed : change r with
  | ok r' =>
      rw [changed] at performs
      exact Always.ask_bind_ok performs (fun h e => .failed h e) (quiet _ _ (.made changed))
  | error e =>
      rw [changed] at performs
      apply Always.ask_bind
      · intro other t carried
        rw [performs] at carried
        cases carried
      · intro e' stopped
        rcases stopped with refused | fails
        · rw [performs] at refused
          cases refused
          exact .refused changed
        · exact .failed fails e'

theorem makes_delFilter (f : Tc.Filter) (level : Log.Level) (message : String)
    (fields : List (String × Log.Value)) :
    Makes faulty link (dropFilter f) (do ask (.delFilter link f); note level message fields) :=
  fun _ _ found => always_made (perform_delFilter found f) fun _ _ h => Always.note h

theorem makes_delQdisc (q : Tc.Qdisc) (level : Log.Level) (message : String)
    (fields : List (String × Log.Value)) :
    Makes faulty link (dropQdisc q) (do ask (.delQdisc link q); note level message fields) :=
  fun _ _ found => always_made (perform_delQdisc found q) fun _ _ h => Always.note h

/-- A change of one link, and what follows it. -/
theorem Made.bind {α : Type} {p : Program Unit} {f : Unit → Program α}
    {change : LinkRecord → Except Error LinkRecord} {Q : Except Error α → Netns → Prop}
    (first : p.Always (Answers faulty) s (Made faulty s link change r))
    (stopped : ∀ e, change r = .error e ∨ faulty → Q (.error e) s)
    (next : ∀ r', change r = .ok r' → (f ()).Always (Answers faulty) (s.put link.name r') Q) :
    (p >>= f).Always (Answers faulty) s Q := by
  apply Always.bind first
  · intro _ s' made
    cases made with
    | made changed => exact next _ changed
  · intro e s' ended
    cases ended with
    | refused refused => exact stopped e (.inl refused)
    | failed fails => exact stopped e (.inr fails)

/-- A loop of changes of one link. -/
theorem always_edits {change : β → LinkRecord → Except Error LinkRecord} {body : β → Program Unit}
    (makes : ∀ item, Makes faulty link (change item) (body item))
    (keeps : ∀ item r r', change item r = .ok r' → r'.link = r.link)
    (items : List β) (found : s.record? link = some r) :
    (items.forM body).Always (Answers faulty) s fun result s' =>
      ∃ r', Edits faulty change items r result r' ∧ s' = s.put link.name r' := by
  induction items generalizing s r with
  | nil => exact ⟨r, .finished, (put_get? (get?_of_record? found)).symm⟩
  | cons item rest ih =>
      have unchanged : s = s.put link.name r := (put_get? (get?_of_record? found)).symm
      apply Made.bind (makes item s r found)
      · intro e stopped
        rcases stopped with refused | fails
        · exact ⟨r, .refused refused, unchanged⟩
        · exact ⟨r, .failed fails e, unchanged⟩
      · intro r₁ changed
        refine (ih (record?_put found (keeps item r r₁ changed))).mono ?_
        rintro result s' ⟨r', edits, rfl⟩
        exact ⟨r', .next changed edits, put_put s link.name r₁ r'⟩

end SandboxNet.Netns
