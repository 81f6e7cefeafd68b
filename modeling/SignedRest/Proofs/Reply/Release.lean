/-
What is left of a reply when handlers are done with it. Its body is released on every path, and the
handlers behind the first one that does not pass the reply on have no say in anything.
-/

import SignedRest.Proofs.Reply.Chain

namespace SignedRest

/-! ### The body -/

/-- What may become of a body: it stays, or it is released after some of its bytes were read. -/
inductive Content.Leaves : Content → Content → Prop where
  | kept (content : Content) : Leaves content content
  | released (body : Body) {read : Nat} (within : read ≤ body.content.length) :
      Leaves (.attached body) (.released read)

theorem Content.Leaves.trans {first middle last : Content} (before : Leaves first middle)
    (after : Leaves middle last) : Leaves first last := by
  cases before with
  | kept => exact after
  | released body within =>
      cases after with
      | kept => exact .released body within

theorem Reply.release_leaves (reply : Reply) {read : Nat}
    (within : ∀ body, reply.content = .attached body → read ≤ body.content.length) :
    Content.Leaves reply.content (reply.release read).content := by
  unfold Reply.release
  cases attached : reply.content with
  | attached body => exact .released body (within body attached)
  | none =>
      dsimp only
      rw [attached]
      exact .kept _
  | released earlier =>
      dsimp only
      rw [attached]
      exact .kept _

theorem Reply.release_hasContent (reply : Reply) (read : Nat) :
    (reply.release read).hasContent = false := by
  rcases reply with ⟨status, statusText, headers, content⟩
  cases content <;> rfl

theorem Reply.body?_of_attached {reply : Reply} {body : Body}
    (attached : reply.content = .attached body) : reply.body? = some body := by
  rw [Reply.body?, attached]

namespace Handler

/-- An error body is read no further than it goes, whatever length was declared. -/
theorem errorContents_length_le {reply : Reply} {body : Body}
    (attached : reply.content = .attached body) (findings : Findings) :
    ((errorContents reply findings).map (·.bytes.length)).getD 0 ≤ body.content.length := by
  unfold errorContents
  rw [Reply.body?_of_attached attached]
  cases findings.metadata.contentLength with
  | none => exact Nat.zero_le _
  | some length =>
      by_cases zero : length = 0
      · simp only [if_pos zero, Option.map_none, Option.getD_none, Nat.zero_le]
      · simp only [if_neg zero, Option.map_some, Option.getD_some, Body.readUpTo_eq,
          List.length_take]
        exact Nat.min_le_right _ _

theorem runError_leaves (exchange : Exchange) :
    Content.Leaves exchange.reply.content (runError exchange).1.reply.content := by
  rcases exchange with ⟨reply, findings⟩
  by_cases success : reply.isSuccess = true
  · rw [runError_of_success success]
    exact .kept _
  · simp only [runError, if_neg success]
    exact reply.release_leaves (fun _ attached => errorContents_length_le attached findings)

theorem consumed_leaves (reply : Reply) :
    Content.Leaves reply.content (consumed reply).content := by
  cases present : reply.body? with
  | none =>
      simp only [consumed, present]
      exact .kept _
  | some body =>
      simp only [consumed, present]
      refine reply.release_leaves (fun other attached => ?_)
      rw [Reply.body?_of_attached attached] at present
      exact Option.some.inj present ▸ Nat.le_refl _

theorem runJson_leaves (exchange : Exchange) :
    Content.Leaves exchange.reply.content (runJson exchange).1.reply.content := by
  rcases exchange with ⟨reply, findings⟩
  rw [runJson_eq]
  split <;> exact consumed_leaves reply

theorem run_leaves (handler : Handler) (exchange : Exchange) :
    Content.Leaves exchange.reply.content (handler.run exchange).1.reply.content := by
  cases handler with
  | metadata => exact .kept _
  | error => exact runError_leaves exchange
  | json => exact runJson_leaves exchange
  | fixed verdict => exact .kept _

theorem runAll_leaves (handlers : List Handler) (exchange : Exchange) :
    Content.Leaves exchange.reply.content (runAll handlers exchange).1.reply.content := by
  induction handlers generalizing exchange with
  | nil => exact .kept _
  | cons handler rest ih =>
      have step := run_leaves handler exchange
      rw [runAll]
      cases ran : handler.run exchange with
      | mk reached verdict =>
          rw [ran] at step
          cases verdict with
          | next => exact step.trans (ih reached)
          | stop => exact step
          | fail cause => exact step

/-! ### The chain -/

/-- What has become of an exchange where every handler passes it on. -/
def passAll? : List Handler → Exchange → Option Exchange
  | [], exchange => some exchange
  | handler :: rest, exchange =>
      match handler.run exchange with
      | (passed, .next) => passAll? rest passed
      | _ => none

theorem runAll_of_passed {front : List Handler} {exchange reached : Exchange}
    (passed : passAll? front exchange = some reached) (rest : List Handler) :
    runAll (front ++ rest) exchange = runAll rest reached := by
  induction front generalizing exchange with
  | nil => rw [List.nil_append, Option.some.inj passed]
  | cons handler others ih =>
      rw [passAll?] at passed
      rw [List.cons_append, runAll]
      cases ran : handler.run exchange with
      | mk middle verdict =>
          rw [ran] at passed
          cases verdict with
          | next => exact ih passed
          | stop => cases passed
          | fail cause => cases passed

theorem runAll_of_ended {last : Handler} {reached : Exchange}
    (ended : (last.run reached).2 ≠ .next) (rest : List Handler) :
    runAll (last :: rest) reached = runAll [last] reached := by
  rw [runAll, runAll]
  cases ran : last.run reached with
  | mk final verdict =>
      rw [ran] at ended
      cases verdict with
      | next => exact absurd rfl ended
      | stop => rfl
      | fail cause => rfl

/-- Nothing behind the first handler that stops or fails makes a difference. -/
theorem runAll_cut {front : List Handler} {last : Handler} {exchange reached : Exchange}
    (passed : passAll? front exchange = some reached) (ended : (last.run reached).2 ≠ .next)
    (rest : List Handler) :
    runAll (front ++ last :: rest) exchange = runAll (front ++ [last]) exchange := by
  rw [runAll_of_passed passed, runAll_of_passed passed, runAll_of_ended ended]

end Handler

namespace Reply

theorem process_reply (reply : Reply) (handlers : List Handler) :
    (reply.process handlers).1 = (Handler.runAll handlers ⟨reply, {}⟩).1.reply.release 0 := by
  unfold process
  cases Handler.runAll handlers ⟨reply, {}⟩ with
  | mk exchange outcome =>
      cases outcome with
      | ok => rfl
      | error cause => rfl

theorem process_leaves (reply : Reply) (handlers : List Handler) :
    Content.Leaves reply.content (reply.process handlers).1.content := by
  rw [process_reply]
  exact (Handler.runAll_leaves handlers ⟨reply, {}⟩).trans
    (release_leaves _ (fun _ _ => Nat.zero_le _))

/-- Whatever handlers look at a reply, in the end its body is released, and what was found, what was
read and how it ended were settled by the first handler that did not pass the reply on. -/
theorem process_settled (reply : Reply) (handlers : List Handler) :
    (reply.process handlers).1.hasContent = false ∧
      (∀ body, reply.content = .attached body → ∃ read ≤ body.content.length,
        (reply.process handlers).1.content = .released read) ∧
      (reply.content = .none → (reply.process handlers).1.content = .none) ∧
      ∀ front last rest reached, handlers = front ++ last :: rest →
        Handler.passAll? front ⟨reply, {}⟩ = some reached → (last.run reached).2 ≠ .next →
        reply.process handlers = reply.process (front ++ [last]) ∧
          Handler.runAll handlers ⟨reply, {}⟩ = Handler.runAll (front ++ [last]) ⟨reply, {}⟩ := by
  have leaves := process_leaves reply handlers
  have detached : (reply.process handlers).1.hasContent = false := by
    rw [process_reply]
    exact release_hasContent _ _
  refine ⟨detached, ?_, ?_, ?_⟩
  · intro body attached
    rw [attached] at leaves
    cases left : (reply.process handlers).1.content with
    | released read =>
        rw [left] at leaves
        cases leaves with
        | released _ within => exact ⟨read, within, rfl⟩
    | attached other =>
        rw [hasContent, left] at detached
        cases detached
    | none =>
        rw [left] at leaves
        cases leaves
  · intro absent
    rw [absent] at leaves
    cases left : (reply.process handlers).1.content with
    | none => rfl
    | attached other =>
        rw [left] at leaves
        cases leaves
    | released read =>
        rw [left] at leaves
        cases leaves
  · rintro front last rest reached rfl passed ended
    have cut := Handler.runAll_cut passed ended rest
    refine ⟨?_, cut⟩
    rw [process, process, cut]

/-- The body of an error is released although the handlers behind would have read it, or would have
failed in another way. -/
theorem process_settled_unavailable :
    let reply := ((Reply.make 503).withHeader "content-length" "1").withBody
      ⟨[123, 125], [1], true, by decide⟩
    let handlers : List Handler := [.metadata, .error, .json, .fixed (.fail .json)]
    (∃ read ≤ 2, (reply.process handlers).1.content = .released read) ∧
      reply.process handlers = reply.process [.metadata, .error] := by
  intro reply handlers
  obtain ⟨_, released, _, cut⟩ := process_settled reply handlers
  have ended : (Handler.run .error ⟨reply, { metadata := Metadata.ofReply reply }⟩).2 ≠ .next := by
    have failure : reply.isSuccess = false := by decide
    obtain ⟨left, error, ran, _⟩ :=
      Handler.runError_of_failure failure { metadata := Metadata.ofReply reply }
    rw [Handler.run, ran]
    intro same
    cases same
  exact ⟨released _ rfl,
    (cut [.metadata] .error [.json, .fixed (.fail .json)] _ rfl rfl ended).1⟩

end Reply

end SignedRest
