import SerialAudio.Transport
/-!
# What a transport was asked and what it answered

Between them a program, a test bench and the transfers ask many things of a transport, and most of
these concern one direction only: `Command.side?` says which. Starting and cancelling do as well,
but both are entered in records that the directions share, so they belong to no side.

The two sides are written down apart, as what the program plays and what it captures, and nobody
says how they mesh. `Interleaving` is any way in which they may.
-/

namespace SerialAudio

/-- The direction that a call from the program is about. -/
def FrameQueue.ClientCall.side : ClientCall → Direction
  | .push _ => .transmit
  | .pushAll _ => .transmit
  | .pop => .receive

/-- A list made of two lists, each in its own order. -/
inductive Interleaving {α : Type} : List α → List α → List α → Prop where
  /-- Both are at their end. -/
  | nil : Interleaving [] [] []
  /-- The first list goes on. -/
  | left {a : α} {first second both : List α} (rest : Interleaving first second both) :
      Interleaving (a :: first) second (a :: both)
  /-- The second list goes on. -/
  | right {a : α} {first second both : List α} (rest : Interleaving first second both) :
      Interleaving first (a :: second) (a :: both)

namespace Transport

variable {n : Nat}

/-- The direction that a command is about, unless it is entered in a record of both. -/
def Command.side? : Command n → Option Direction
  | .start _ _ => none
  | .cancel _ => none
  | .refuse d => some d
  | .complete d => some d
  | .completeWith d _ => some d
  | .fail d => some d
  | .client _ c => some c.side

/-- The transport after commands. -/
def after (t : Transport n) (cs : List (Command n)) : Transport n :=
  cs.foldl (fun t c => (c.perform t).2) t

/-- Commands with their answers. -/
def transcript (t : Transport n) : List (Command n) → List (Command n × Reply)
  | [] => []
  | c :: cs => (c, (c.perform t).1) :: (c.perform t).2.transcript cs

/-- The part of a transcript that is about a direction. -/
def sideOf (d : Direction) (entries : List (Command n × Reply)) : List (Command n × Reply) :=
  entries.filter (·.1.side? = some d)

variable {t : Transport n} {c : Command n} {cs more : List (Command n)} {d : Direction}
  {entries : List (Command n × Reply)} {r : Reply}

@[simp] theorem after_nil : t.after [] = t := rfl

@[simp] theorem after_cons : t.after (c :: cs) = (c.perform t).2.after cs := rfl

@[simp] theorem after_append : t.after (cs ++ more) = (t.after cs).after more := List.foldl_append

@[simp] theorem transcript_nil : t.transcript [] = [] := rfl

@[simp] theorem transcript_cons :
    t.transcript (c :: cs) = (c, (c.perform t).1) :: (c.perform t).2.transcript cs := rfl

@[simp] theorem sideOf_nil : sideOf (n := n) d [] = [] := rfl

theorem sideOf_cons_of_side (h : c.side? = some d) :
    sideOf d ((c, r) :: entries) = (c, r) :: sideOf d entries :=
  List.filter_cons_of_pos (decide_eq_true h)

theorem sideOf_cons_of_ne (h : c.side? ≠ some d) :
    sideOf d ((c, r) :: entries) = sideOf d entries :=
  List.filter_cons_of_neg (by simpa using h)

end Transport

end SerialAudio
