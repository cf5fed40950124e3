/-
  File:      HomeAlert/Library/Mailbox.lean
  Subject:   A ONE-PLACE MAILBOX: posting replaces what is in it, fetching empties it.

  What a ready buffer with a semaphore of limit 1 is for, over any type of messages. Two readings
  of a history of posts and fetches:

  * `Box.Counts` -- numbers: after `c` posts, `t` of them at the last successful fetch, there is
    something to fetch exactly when `t < c`;
  * `Box.History` -- contents: the fetched messages are a subsequence of the posted ones, each
    fetched once; the newest message is fetched or still there.
-/
import Mathlib.Data.List.Sublists

namespace Mailbox

universe u

/-- A mailbox: the newest message, and whether it is still to be fetched. -/
structure Box (β : Type u) where
  newest : β
  unread : Bool

variable {β : Type u}

def Box.post (_m : Box β) (b : β) : Box β := { newest := b, unread := true }

/-- Several messages, one after the other. -/
def Box.posts (m : Box β) (bs : List β) : Box β := bs.foldl Box.post m

/-- The message, if there is one to fetch. -/
def Box.fetch (m : Box β) : Box β × Option β :=
  if m.unread then ({ m with unread := false }, some m.newest) else (m, none)

@[simp] theorem posts_nil (m : Box β) : m.posts [] = m := rfl

theorem posts_append (m : Box β) (a b : List β) : m.posts (a ++ b) = (m.posts a).posts b :=
  List.foldl_append

theorem posts_concat (m : Box β) (bs : List β) (b : β) :
    m.posts (bs ++ [b]) = { newest := b, unread := true } := by
  rw [posts_append]
  rfl

/-- After some posts the last of them is in the box. -/
theorem posts_eq (m : Box β) (bs : List β) :
    m.posts bs = { newest := bs.getLast?.getD m.newest, unread := m.unread || !bs.isEmpty } := by
  rcases List.eq_nil_or_concat bs with rfl | ⟨l, b, rfl⟩
  · simp
  · rw [List.concat_eq_append, posts_concat]
    simp

/-! ## 1. Counting -/

/-- `c` messages were posted so far, and `t` of them by the last successful fetch. -/
def Box.Counts (m : Box β) (c t : Nat) : Prop := t ≤ c ∧ (m.unread = true ↔ t < c)

theorem Box.Counts.posts {m : Box β} {c t : Nat} (h : m.Counts c t) (bs : List β) :
    (m.posts bs).Counts (c + bs.length) t := by
  obtain ⟨h1, h2⟩ := h
  rw [posts_eq]
  cases bs with
  | nil => exact ⟨h1, by simpa using h2⟩
  | cons b bs => exact ⟨by omega, by simp; omega⟩

theorem Box.Counts.fetch {m : Box β} {c t : Nat} (h : m.Counts c t) :
    m.fetch.1.Counts c (if m.unread then c else t) := by
  unfold Box.fetch
  split
  · exact ⟨Nat.le_refl c, by simp⟩
  · exact h

/-! ## 2. Contents -/

/-- What a history of posted and of fetched messages leaves in the box. -/
structure Box.History (m : Box β) (posted fetched : List β) : Prop where
  sublist : fetched.Sublist posted
  waiting : m.unread = true → ∃ older, posted = older ++ [m.newest] ∧ fetched.Sublist older

theorem Box.History.post {m : Box β} {posted fetched : List β} (h : m.History posted fetched)
    (b : β) : (m.post b).History (posted ++ [b]) fetched where
  sublist := h.sublist.trans (List.sublist_append_left posted [b])
  waiting _ := ⟨posted, rfl, h.sublist⟩

theorem Box.History.posts {m : Box β} {posted fetched : List β} (h : m.History posted fetched)
    (bs : List β) : (m.posts bs).History (posted ++ bs) fetched := by
  induction bs generalizing m posted with
  | nil => simpa using h
  | cons b bs ih => simpa [Box.posts] using ih (h.post b)

/-- **Each message is fetched at most once, and in the order of posting.** -/
theorem Box.History.fetch {m : Box β} {posted fetched : List β} (h : m.History posted fetched) :
    m.fetch.1.History posted (fetched ++ m.fetch.2.toList) := by
  unfold Box.fetch
  split
  · rename_i hu
    obtain ⟨older, he, hs⟩ := h.waiting hu
    refine ⟨?_, fun hc => by cases hc⟩
    rw [he]
    exact hs.append (List.Sublist.refl _)
  · simpa using h

end Mailbox
