import ExchangeRouter.Kraken.Candles
import ExchangeRouter.Kraken.Throttle
import ExchangeRouter.Lib.PyText
import ExchangeRouter.Requests.Model

/-!
# What Kraken answers

`_parse_throttle_until` and the loop of `_make_request` in
`src/exchanges/kraken/adapter.py`.  An attempt returns, raises, asks for a pause
of all requests, or (a success other than 200) passes over in silence; each
pause and each silence uses up an attempt.  Logging is left out.
-/
namespace ExchangeRouter.Kraken.Requests
open Lib Throttle
open ExchangeRouter.Kraken.Candles (futuresChartUrl)
open ExchangeRouter.Requests (Outcome Response RequestError isSuccess)

/-- The texts that Python reads numbers from, and those that it writes. -/
structure Texts where
  float : String → Option ℚ
  writing : Writing
  /-- `f"{type(e).__name__}: {e}"`. -/
  exception : PyError → String

def Texts.str (texts : Texts) (value : Json) : String := String.ofList (texts.writing.str value)

def throttledMark : List Char := "EService:Throttled:".toList

/-- The first part of `str` behind the mark, without what closes a list of texts. -/
def throttledWord (errStr : List Char) : Option (List Char) :=
  (afterFirst throttledMark errStr).bind fun tail =>
    (firstWord (rstrip [']', quotationMark, apostrophe] (strip tail))).map
      (rstrip [']', quotationMark, apostrophe, ','])

def parseThrottleUntil (texts : Texts) (errStr : String) : Option Time :=
  (throttledWord errStr.toList).bind fun token => texts.float (String.ofList token)

def maxRetries (url : String) : ℕ := if spotRestUrl.toList.isPrefixOf url.toList then 8 else 5

/-- What comes of one attempt. -/
inductive Verdict
  | returns (data : Json)
  | raises (e : RequestError)
  /-- `_set_backoff(attempt, retry_until, strong)`, and what it leaves in `last_body_error`. -/
  | backoff (retryUntil : Option Time) (strong : Bool) (bodyError : Option String)
  | silent

/-- The handling of a decoded body with status 200. -/
def handleBody (texts : Texts) (url : String) (data : Json) : Verdict :=
  match data with
  | .obj fields =>
    let err := (fields.lookup "error").getD .null
    if err.truthy then
      let errStr := texts.str err
      let throttleUntil := parseThrottleUntil texts errStr
      if throttleUntil.any (· ≠ 0) || occursIn "Rate limit exceeded".toList errStr.toList ||
          occursIn "Too many requests".toList errStr.toList then
        .backoff throttleUntil true (some errStr)
      else .raises (.valueError ("Kraken Spot API Error: " ++ errStr))
    else
      match fields.lookup "result" with
      | none => .returns data
      | some result =>
        if result.isText "error" then
          .raises (.valueError ("Kraken Futures API Error: " ++
            texts.str ((fields.lookup "errors").getD data)))
        else
          match result with
          | .obj _ =>
            if futuresChartUrl.toList.isPrefixOf url.toList then .returns data else .returns result
          | _ => .returns data
  | _ => .returns data

/-- The deadline of a `Retry-After` header that is a number. -/
def retryAfterUntil (resp : Response) (readAt : Time) : Option Time :=
  (resp.headers.get? "Retry-After").bind fun header => header.asFloat.map (readAt + ·)

/-- The `try` of one attempt, with the time at which a `Retry-After` is read. -/
def handle (texts : Texts) (url : String) (readAt : Time) : Outcome → Verdict
  | .raised e =>
    if e.isValueError then .raises (.reraised e) else .backoff none false (some (texts.exception e))
  | .response resp =>
    if resp.status ∈ [429, 418, 502, 503, 504, 520] then
      .backoff (retryAfterUntil resp readAt) (resp.status ∈ [429, 418]) none
    else if resp.status = 200 then
      match resp.json with
      | .error _ => .backoff none false (some "JSONDecodeError")
      | .ok data => handleBody texts url data
    else if isSuccess resp.status then .silent
    else
      let status := resp.status
      let text := s!"Kraken API Error ({status}) on {url}: " ++ resp.text
      if 500 ≤ status then .raises (.unavailable text none) else .raises (.valueError text)

/-- What an attempt got, and when: `factor` is the `0.5 + random.random()` of its pause. -/
structure Answer where
  readAt : Time
  now : Time
  factor : ℚ
  outcome : Outcome

/-- The local variables of the loop. -/
structure Progress where
  attempt : ℕ
  lastStatus : Option ℕ
  lastBodyError : Option String
  deriving DecidableEq

def Progress.start : Progress := ⟨0, none, none⟩

abbrev Reply := Except RequestError Json

def optionText (value : Option String) : String := value.getD "None"

/-- The raise behind the loop. -/
def Progress.exhausted (p : Progress) (url : String) : RequestError :=
  let status := optionText (p.lastStatus.map toString)
  let body := optionText p.lastBodyError
  .unavailable (s!"Kraken throttled or unavailable: {url} (last_status={status}, " ++
    s!"last_body_error={body})") none

/-- An attempt is used up. -/
def Progress.used (p : Progress) (outcome : Outcome) (bodyError : Option String) : Progress where
  attempt := p.attempt + 1
  lastStatus :=
    match outcome with
    | .response resp => some resp.status
    | .raised _ => p.lastStatus
  lastBodyError := bodyError.or p.lastBodyError

/-- Where the loop stands. -/
inductive Standing
  | running (p : Progress)
  | ended (reply : Reply)

def Progress.again (url : String) (p : Progress) : Standing :=
  if p.attempt < maxRetries url then .running p else .ended (.error (p.exhausted url))

def Progress.after (texts : Texts) (url : String) (p : Progress) (answer : Answer) : Standing :=
  match handle texts url answer.readAt answer.outcome with
  | .returns data => .ended (.ok data)
  | .raises e => .ended (.error e)
  | .backoff _ _ bodyError => (p.used answer.outcome bodyError).again url
  | .silent => (p.used answer.outcome none).again url

def Standing.after (texts : Texts) (url : String) (standing : Standing) (answer : Answer) :
    Standing :=
  match standing with
  | .running p => p.after texts url answer
  | .ended reply => .ended reply

/-- `_make_request` on the answers to its attempts. -/
def makeRequest (texts : Texts) (url : String) (answers : List Answer) : Standing :=
  answers.foldl (Standing.after texts url) (.running .start)

/-! ## The loop -/

/-- The reply that ends the loop, if the attempt has one. -/
def Verdict.reply? : Verdict → Option Reply
  | .returns data => some (.ok data)
  | .raises e => some (.error e)
  | .backoff .. => none
  | .silent => none

def Verdict.bodyError : Verdict → Option String
  | .backoff _ _ bodyError => bodyError
  | _ => none

variable {texts : Texts} {url : String} {answers : List Answer} {answer : Answer} {p : Progress}
  {reply : Reply}

def Answer.verdict (texts : Texts) (url : String) (answer : Answer) : Verdict :=
  handle texts url answer.readAt answer.outcome

theorem Progress.after_eq (p : Progress) : p.after texts url answer =
    match (answer.verdict texts url).reply? with
    | some reply => .ended reply
    | none => (p.used answer.outcome (answer.verdict texts url).bodyError).again url := by
  unfold Progress.after Answer.verdict
  cases handle texts url answer.readAt answer.outcome <;> rfl

/-- The local variables once the answers have used up an attempt each. -/
def spentOn (texts : Texts) (url : String) (answers : List Answer) : Progress :=
  answers.foldl (fun p answer => p.used answer.outcome (answer.verdict texts url).bodyError) .start

theorem spentOn_attempt (texts : Texts) (url : String) (answers : List Answer) :
    (spentOn texts url answers).attempt = answers.length := by
  induction answers using List.reverseRecOn with
  | nil => rfl
  | append_singleton answers answer ih =>
    rw [spentOn, List.foldl_append, List.length_append]
    exact congrArg (· + 1) ih

/-- The answers that end a call, and its reply. -/
inductive Ends (texts : Texts) (url : String) : List Answer → Reply → Prop
  | settled {front : List Answer} {last : Answer} {reply : Reply}
      (before : ∀ answer ∈ front, (answer.verdict texts url).reply? = none)
      (within : front.length < maxRetries url)
      (settles : (last.verdict texts url).reply? = some reply) :
    Ends texts url (front ++ [last]) reply
  | exhausted {answers : List Answer}
      (before : ∀ answer ∈ answers, (answer.verdict texts url).reply? = none)
      (spent : answers.length = maxRetries url) :
    Ends texts url answers (.error ((spentOn texts url answers).exhausted url))

theorem Ends.length_le (ends : Ends texts url answers reply) :
    answers.length ≤ maxRetries url := by
  cases ends with
  | settled _ within _ =>
    rw [List.length_append]
    exact within
  | exhausted _ spent => exact spent.le

/-- A call goes on as long as its answers use up fewer attempts than it has. -/
structure GoesOn (texts : Texts) (url : String) (answers : List Answer) (p : Progress) : Prop where
  looped : makeRequest texts url answers = .running p
  progress : p = spentOn texts url answers
  unsettled : ∀ answer ∈ answers, (answer.verdict texts url).reply? = none
  within : answers.length < maxRetries url

theorem makeRequest_snoc : makeRequest texts url (answers ++ [answer]) =
    (makeRequest texts url answers).after texts url answer := by
  rw [makeRequest, makeRequest, List.foldl_append]
  rfl

theorem goesOn_start : GoesOn texts url [] .start := by
  refine ⟨rfl, rfl, by simp, ?_⟩
  unfold maxRetries
  split <;> decide

/-- An attempt that settles nothing is used up. -/
theorem again_spent (settles : (answer.verdict texts url).reply? = none) :
    (spentOn texts url answers).after texts url answer =
      (spentOn texts url (answers ++ [answer])).again url := by
  rw [Progress.after_eq, settles, spentOn, spentOn, List.foldl_append]
  rfl

theorem GoesOn.after (goesOn : GoesOn texts url answers p) :
    (∀ q, p.after texts url answer = .running q → GoesOn texts url (answers ++ [answer]) q) ∧
      ∀ reply, p.after texts url answer = .ended reply →
        makeRequest texts url (answers ++ [answer]) = .ended reply ∧
          Ends texts url (answers ++ [answer]) reply := by
  obtain ⟨looped, rfl, unsettled, within⟩ := goesOn
  have next : makeRequest texts url (answers ++ [answer]) =
      (spentOn texts url answers).after texts url answer := by
    rw [makeRequest_snoc, looped]
    rfl
  cases settles : (answer.verdict texts url).reply? with
  | some reply =>
    have settled : (spentOn texts url answers).after texts url answer = .ended reply := by
      rw [Progress.after_eq, settles]
    rw [settled] at next ⊢
    refine ⟨nofun, fun other ended => ?_⟩
    cases ended
    exact ⟨next, .settled unsettled within settles⟩
  | none =>
    have all : ∀ other ∈ answers ++ [answer], (other.verdict texts url).reply? = none := by
      intro other member
      rcases List.mem_append.mp member with before | last
      · exact unsettled other before
      · rw [List.mem_singleton.mp last]
        exact settles
    have attempts := spentOn_attempt texts url (answers ++ [answer])
    rw [again_spent settles, Progress.again, attempts] at next ⊢
    by_cases left : (answers ++ [answer]).length < maxRetries url
    · rw [if_pos left] at next ⊢
      refine ⟨fun q running => ?_, nofun⟩
      cases running
      exact ⟨next, rfl, all, left⟩
    · rw [if_neg left] at next ⊢
      refine ⟨nofun, fun _ ended => ?_⟩
      cases ended
      refine ⟨next, .exhausted all ?_⟩
      rw [List.length_append, List.length_singleton] at left ⊢
      omega

/-! ## The deadline of a throttled call -/

/-- Up to the first blank, a list of texts goes on with marks that are stripped. -/
theorem closers_of_prefix {part rest : List Char} (prior : part <+: apostrophe :: rest)
    (closes : rest = [']'] ∨ ∃ more, rest = ',' :: ' ' :: more)
    (solid : ∀ c ∈ part, isSpace c = false) :
    ∀ c ∈ part, c ∈ [']', quotationMark, apostrophe, ','] := by
  rcases closes with rfl | ⟨more, rfl⟩
  · intro c member
    have inside := prior.subset member
    simp only [List.mem_cons, List.not_mem_nil, or_false] at inside
    rcases inside with rfl | rfl <;> decide
  · intro c member
    have blank : ' ' ∉ part := fun inside => absurd (solid _ inside) (by decide)
    rcases part with _ | ⟨a, _ | ⟨b, _ | ⟨d, part⟩⟩⟩
    · cases member
    · simp only [List.cons_prefix_cons] at prior
      rw [List.mem_singleton.mp member, prior.1]
      decide
    · simp only [List.cons_prefix_cons] at prior
      simp only [List.mem_cons, List.not_mem_nil, or_false] at member
      rcases member with rfl | rfl
      · rw [prior.1]
        decide
      · rw [prior.2.1]
        decide
    · simp only [List.cons_prefix_cons] at prior
      exact absurd (prior.2.2.1 ▸ by simp) blank

/-- The word before the quotation ends. -/
theorem word_of_tail {token rest : List Char} (nonempty : token ≠ [])
    (word : ∀ c ∈ token, isSpace c = false ∧ c ∉ [']', quotationMark, apostrophe, ','])
    (closes : rest = [']'] ∨ ∃ more, rest = ',' :: ' ' :: more) :
    (firstWord (rstrip [']', quotationMark, apostrophe]
      (strip (' ' :: (token ++ [apostrophe] ++ rest))))).map
        (rstrip [']', quotationMark, apostrophe, ',']) = some token := by
  obtain ⟨front, last, rfl⟩ : ∃ front last, token = front ++ [last] :=
    ⟨token.dropLast, token.getLast nonempty, (List.dropLast_append_getLast nonempty).symm⟩
  have stays := word last (by simp)
  have solid : ∀ c ∈ front ++ [last], (!isSpace c) = true := fun c member => by
    rw [(word c member).1, Bool.not_false]
  have kept (behind : List Char) : (front ++ [last] ++ behind).dropWhile isSpace =
      front ++ [last] ++ behind := by
    cases front with
    | nil => simp [stays.1]
    | cons c front => simp [(word c (by simp)).1]
  have stripped : strip (' ' :: (front ++ [last] ++ [apostrophe] ++ rest)) =
      front ++ [last] ++ ([apostrophe] ++ rest.rdropWhile isSpace) := by
    have blank : isSpace ' ' = true := by decide
    have quote : isSpace apostrophe = false := by decide
    rw [strip, List.dropWhile_cons_of_pos blank, List.append_assoc _ [apostrophe], kept,
      ← List.append_assoc, rdropWhile_append quote, List.append_assoc]
  have inner : decide (last ∈ [']', quotationMark, apostrophe]) = false := by
    refine decide_eq_false fun member => stays.2 ?_
    simp only [List.mem_cons, List.not_mem_nil, or_false] at member ⊢
    tauto
  obtain ⟨behind, cut, prior⟩ : ∃ behind, rstrip [']', quotationMark, apostrophe]
      (front ++ [last] ++ ([apostrophe] ++ rest.rdropWhile isSpace)) = front ++ [last] ++ behind ∧
      behind <+: apostrophe :: rest :=
    ⟨_, rdropWhile_append inner _, (List.rdropWhile_prefix _ _).trans
      (List.cons_prefix_cons.mpr ⟨rfl, List.rdropWhile_prefix _ _⟩)⟩
  have first : firstWord (front ++ [last] ++ behind) =
      some (front ++ [last] ++ behind.takeWhile fun c => !isSpace c) := by
    unfold firstWord
    rw [kept, ← List.takeWhile_append_of_pos solid]
    cases front <;> rfl
  have closing : (behind.takeWhile fun c => !isSpace c).rdropWhile
      (fun c => decide (c ∈ [']', quotationMark, apostrophe, ','])) = [] := by
    refine List.rdropWhile_eq_nil_iff.mpr fun c member => decide_eq_true ?_
    have solidPart := (List.takeWhile_prefix (l := behind) fun c => !isSpace c).trans prior
    refine closers_of_prefix solidPart closes (fun d inside => ?_) c member
    simpa using List.mem_takeWhile_imp inside
  rw [stripped, cut, first, Option.map_some, rstrip,
    rdropWhile_append (decide_eq_false stays.2), closing, List.append_nil]

/-- The text between two errors of a list. -/
theorem afterFirst_texts (writing : Writing) {front : List String} {rest : List Char}
    (absent : ∀ s ∈ front, ¬ throttledMark <:+: s.toList) :
    afterFirst throttledMark ((front.map fun s => writing.reprText s.toList).flatMap
      (fun part => part ++ ", ".toList) ++ rest) = afterFirst throttledMark rest := by
  induction front with
  | nil => rfl
  | cons s front ih =>
    have mark : throttledMark = 'E' :: "Service:Throttled:".toList := rfl
    have comma : ∀ c ∈ ", ".toList, c ≠ 'E' := by simp
    have first := absent s List.mem_cons_self
    rw [List.map_cons, List.flatMap_cons, List.append_assoc, List.append_assoc, mark] at *
    rw [afterFirst_reprText writing (plain_of_all (by decide)) (by decide) first,
      afterFirst_append comma]
    exact ih fun other member => absent other (List.mem_cons_of_mem _ member)

/-- The word behind the mark is found, wherever the error stands in the list. -/
theorem throttledWord_errors (writing : Writing) {front : List String} {token : List Char}
    (absent : ∀ s ∈ front, ¬ throttledMark <:+: s.toList) (nonempty : token ≠ [])
    (word : ∀ c ∈ token, Plain c ∧ c ∉ [' ', ']', ',']) (back : List Json) :
    throttledWord (writing.str (.arr (front.map .str ++
      .str (String.ofList (throttledMark ++ ' ' :: token)) :: back))) = some token := by
  have letters : ∀ c ∈ throttledMark ++ ' ' :: token, Plain c := by
    intro c member
    rcases List.mem_append.mp member with mark | behind
    · exact plain_of_all (by decide : throttledMark.all (fun c => decide (Plain c)) = true) c mark
    · rcases List.mem_cons.mp behind with rfl | inside
      · decide
      · exact (word c inside).1
  have noQuote : apostrophe ∉ throttledMark ++ ' ' :: token := fun member =>
    (letters _ member).2.2.1 rfl
  have quote : Writing.quoteOf (throttledMark ++ ' ' :: token) = apostrophe :=
    if_neg fun both => noQuote both.1
  have entry : writing.reprText (throttledMark ++ ' ' :: token) =
      [apostrophe] ++ (throttledMark ++ (' ' :: token ++ [apostrophe])) := by
    simp [Writing.reprText, quote, quoted_eq_plain writing letters noQuote]
  obtain ⟨rest, closes, whole⟩ : ∃ rest, (rest = [']'] ∨ ∃ more, rest = ',' :: ' ' :: more) ∧
      writing.str (.arr (front.map .str ++
        .str (String.ofList (throttledMark ++ ' ' :: token)) :: back)) =
      ['['] ++ ((front.map fun s => writing.reprText s.toList).flatMap
        (fun part => part ++ ", ".toList) ++
          ([apostrophe] ++ (throttledMark ++ (' ' :: (token ++ [apostrophe] ++ rest))))) := by
    refine ⟨(if writing.reprItems back = [] then [] else
      ", ".toList ++ Writing.joined (writing.reprItems back)) ++ [']'], ?_, ?_⟩
    · split
      · exact .inl rfl
      · exact .inr ⟨_, rfl⟩
    · rw [Writing.str, Writing.repr, reprItems_append, reprItems_texts, Writing.reprItems,
        Writing.repr, String.toList_ofList, joined_append, entry]
      · simp
      · simp
  have bracket : ∀ c ∈ ['['], c ≠ 'E' := by simp
  have opening : ∀ c ∈ [apostrophe], c ≠ 'E' := List.forall_mem_singleton.mpr (by decide)
  have solid : ∀ c ∈ token, isSpace c = false ∧ c ∉ [']', quotationMark, apostrophe, ','] := by
    intro c member
    obtain ⟨⟨above, below, notQuote, notDouble, -⟩, notClosing⟩ := word c member
    simp only [List.mem_cons, List.not_mem_nil, or_false, not_or] at notClosing ⊢
    have notBlank : c.toNat ≠ 32 := fun same => notClosing.1 (Char.toNat_inj.mp same)
    refine ⟨?_, notClosing.2.1, notDouble, notQuote, notClosing.2.2⟩
    simp only [isSpace, Bool.or_eq_false_iff, Bool.and_eq_false_iff, decide_eq_false_iff_not]
    omega
  have skipped : afterFirst throttledMark (writing.str (.arr (front.map .str ++
      .str (String.ofList (throttledMark ++ ' ' :: token)) :: back))) =
      some (' ' :: (token ++ [apostrophe] ++ rest)) := by
    have mark : throttledMark = 'E' :: "Service:Throttled:".toList := rfl
    rw [whole, mark, afterFirst_append bracket, ← mark, afterFirst_texts writing absent, mark,
      afterFirst_append opening, ← mark, afterFirst_of_occurs (by decide)]
  rw [throttledWord, skipped, Option.bind_some]
  exact word_of_tail nonempty solid closes

end ExchangeRouter.Kraken.Requests
