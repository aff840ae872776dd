import CupsConnector.Util.Prompt
import Mathlib.Data.BitVec
import Mathlib.Logic.Function.Iterate
import Mathlib.Tactic.Ring

/-!
# OAuth credentials for the connector (`gcp-cups-connector-util/init.go`)

The user's OAuth client, obtained from a refresh token or by the device flow, and the robot
account created with it. The endpoints are the environment (`Net`): the device-code reply, the
successive token-poll replies, the `createrobot` reply and the code exchange.

* `pollOAuthConfirmation`: sleep, poll, and double the interval on `slow_down`. Go's `int` is
  as wide as the target's word, `w` bits (32 on `armhf` and `i386`, 64 on `amd64`), and
  `time.Duration` is 64 bits: the interval is a `BitVec w` and the sleep a `BitVec 64`.
* `pollOAuthConfirmation_sleep`: the `k`-th sleep is the interval doubled once per `slow_down`
  before it, wrapped to `w` bits, then in nanoseconds wrapped to 64 bits. Only when neither
  wraps is it the product. On a 32-bit target an interval of `2 ^ 30` s doubled once is
  negative.
* `pollOAuthConfirmation_outcome`: the loop ends at the first reply that is neither pending nor
  `slow_down`, and that reply alone decides the result.
* `getUserClientFromUser`, `getUserClientFromToken`, `initRobotAccount`, `verifyRobotAccount`,
  `createRobotAccount`.
-/

namespace CupsConnector

/-- `*cli.Context`: which flags are given on the command line, and the value of each flag,
given or its default. Go's `int` is `w` bits wide; `time.Duration` is 64 bits. -/
structure Context (w : Nat) where
  isSet : String → Bool
  string : String → String
  int : String → BitVec w
  bool : String → Bool
  duration : String → BitVec 64

/-- An `*http.Client` that authorizes with an OAuth refresh token, and its timeout. -/
structure Client where
  refreshToken : String
  timeout : BitVec 64
  deriving DecidableEq, Repr

/-- The fields of the device-code reply that the command reads, as `json.Decoder` leaves them: a
field the body lacks, or a body that does not decode, keeps Go's zero value. -/
structure DeviceCodeReply (w : Nat) where
  userCode : String
  verificationURL : String
  interval : BitVec w
  deriving DecidableEq, Repr

/-- The fields of a token-poll reply that the command reads, as `json.Decoder` leaves them. -/
structure TokenReply where
  error : String
  refreshToken : String
  deriving DecidableEq, Repr

/-- The decoded body of the `createrobot` reply. -/
structure RobotInit where
  success : Bool
  message : String
  xmppJID : String
  authCode : String
  deriving DecidableEq, Repr

/-- The `createrobot` reply: its status, and its body decoded or the decoding error. -/
structure RobotReply where
  statusCode : Nat
  status : String
  body : Except String RobotInit

/-- The endpoints' answers: `http.PostForm` to the device-code URL, each poll of the token URL
in turn, the `createrobot` GET made with the user's client, and `config.Exchange` of the
robot's authorization code (the refresh token of the token it returns). -/
structure Net (w : Nat) where
  deviceCode : Except String (DeviceCodeReply w)
  tokens : List (Except String TokenReply)
  createRobot : Client → Except String RobotReply
  exchange : String → Except String String

variable {w : Nat}

/-! ### Polling the token endpoint -/

/-- `time.Duration(interval) * time.Second`: the `int` sign-extended to 64 bits, then
nanoseconds, wrapping at 64 bits. -/
def sleepDuration (interval : BitVec w) : BitVec 64 := interval.signExtend 64 * 1000000000#64

/-- `pollOAuthConfirmation`: before each poll, sleep for the interval. A reply without error
returns a client on its refresh token; `authorization_pending` polls again, and `slow_down`
doubles the interval first. A failed post is fatal with its error; any other error is fatal
with the `err` in scope, which is nil. Returns the sleeps taken and the result, or
`Exit.polling` when the replies run out. -/
def pollOAuthConfirmation (context : Context w) :
    BitVec w → List (Except String TokenReply) → List (BitVec 64) × Except Exit (Client × String)
  | _, [] => ([], .error .polling)
  | interval, reply :: replies =>
    match reply with
    | .error err => ([sleepDuration interval], .error (.fatal err))
    | .ok r =>
      match r.error with
      | "" => ([sleepDuration interval],
          .ok (⟨r.refreshToken, context.duration "gcp-api-timeout"⟩, r.refreshToken))
      | "authorization_pending" =>
        Prod.map (sleepDuration interval :: ·) id (pollOAuthConfirmation context interval replies)
      | "slow_down" =>
        Prod.map (sleepDuration interval :: ·) id
          (pollOAuthConfirmation context (interval * 2) replies)
      | _ => ([sleepDuration interval], .error (.fatal "<nil>"))

/-- A reply after which the loop polls again. -/
def pollsAgain : Except String TokenReply → Bool
  | .ok r => r.error == "authorization_pending" || r.error == "slow_down"
  | .error _ => false

/-- A reply that doubles the interval. -/
def isSlowDown : Except String TokenReply → Bool
  | .ok r => r.error == "slow_down"
  | .error _ => false

/-- The number of `slow_down` replies. -/
def slowDowns (replies : List (Except String TokenReply)) : Nat := replies.countP isSlowDown

/-- The result of the reply that ends the loop. -/
def pollResult (context : Context w) : Except String TokenReply → Except Exit (Client × String)
  | .error err => .error (.fatal err)
  | .ok r =>
    if r.error = "" then .ok (⟨r.refreshToken, context.duration "gcp-api-timeout"⟩, r.refreshToken)
    else .error (.fatal "<nil>")

/-- One poll: a reply that ends the loop gives one sleep and its result, a pending reply polls
again with the same interval, and `slow_down` with the interval doubled. -/
theorem pollOAuthConfirmation_cons (context : Context w) (interval : BitVec w)
    (reply : Except String TokenReply) (replies : List (Except String TokenReply)) :
    pollOAuthConfirmation context interval (reply :: replies) =
      if pollsAgain reply then
        Prod.map (sleepDuration interval :: ·) id (pollOAuthConfirmation context
          (if isSlowDown reply then interval * 2 else interval) replies)
      else ([sleepDuration interval], pollResult context reply) := by
  rcases reply with err | r
  · rfl
  · simp only [pollOAuthConfirmation, pollsAgain, isSlowDown, pollResult]
    split <;> simp_all

/-- The sleep before the poll of a reply, for the replies before it. -/
theorem pollOAuthConfirmation_getElem_sleep (context : Context w) (interval : BitVec w)
    (replies : List (Except String TokenReply)) (k : Nat)
    (hk : k < (pollOAuthConfirmation context interval replies).1.length) :
    (pollOAuthConfirmation context interval replies).1[k] =
      sleepDuration ((· * 2)^[slowDowns (replies.take k)] interval) := by
  induction replies generalizing interval k with
  | nil => simp [pollOAuthConfirmation] at hk
  | cons reply replies ih =>
    simp only [pollOAuthConfirmation_cons] at hk ⊢
    split at hk
    · rename_i hwait
      simp only [hwait, if_true, Prod.map_fst, List.length_cons] at hk ⊢
      cases k with
      | zero => simp [slowDowns]
      | succ j =>
        rw [List.getElem_cons_succ, ih _ j (by omega)]
        cases hs : isSlowDown reply <;> simp [slowDowns, hs, Function.iterate_succ_apply]
    · rename_i hwait
      simp only [hwait, Bool.false_eq_true, if_false, List.length_singleton] at hk ⊢
      obtain rfl : k = 0 := by omega
      simp [slowDowns]

/-- The interval after `s` doublings, as a Go `int`: wrapped to `w` bits. -/
theorem toInt_iterate_double (interval : BitVec w) (s : Nat) :
    ((· * 2)^[s] interval).toInt = (interval.toInt * 2 ^ s).bmod (2 ^ w) := by
  induction s with
  | zero =>
    rw [Function.iterate_zero_apply, pow_zero, mul_one, BitVec.toInt_eq_toNat_bmod, Int.bmod_bmod]
  | succ s ih =>
    have h2 : ((2 : BitVec w).toNat : Int) = 2 % (2 ^ w : Nat) := by simp
    rw [Function.iterate_succ_apply', BitVec.toInt_mul, ih, Int.bmod_mul_bmod,
      BitVec.toInt_eq_toNat_bmod 2, Int.mul_bmod_bmod, h2, mul_comm, Int.emod_mul_bmod_congr,
      pow_succ, mul_comm, mul_assoc]

/-- A sleep in nanoseconds: the interval's seconds, wrapped to 64 bits. -/
theorem toInt_sleepDuration (interval : BitVec w) :
    (sleepDuration interval).toInt = (interval.toInt * 1000000000).bmod (2 ^ 64) := by
  have hns : (1000000000#64).toInt = 1000000000 := by decide
  rw [sleepDuration, BitVec.toInt_mul, BitVec.signExtend, BitVec.toInt_ofInt, Int.bmod_mul_bmod,
    hns]

/-- A value at most half the modulus is its own `bmod`. -/
theorem bmod_eq_self {x : Int} {m : Nat} (h0 : 0 ≤ x) (h : 2 * x < m) : x.bmod m = x := by
  have hx : x % m = x := Int.emod_eq_of_lt h0 (by omega)
  rw [Int.bmod_pos x m (by rw [hx]; omega), hx]

/-- **The sleeps of the poll loop.** Before the `k`-th poll the loop sleeps for the device-code
interval doubled once per `slow_down` reply before it. The doubling wraps as Go's `w`-bit
`int`, and the conversion to nanoseconds as the 64-bit `time.Duration`. When the doubled
interval is non-negative and neither wraps, the sleep is exactly that many seconds. -/
theorem pollOAuthConfirmation_sleep (context : Context w) (interval : BitVec w)
    (replies : List (Except String TokenReply)) (k : Nat)
    (hk : k < (pollOAuthConfirmation context interval replies).1.length) :
    (pollOAuthConfirmation context interval replies).1[k].toInt =
        ((interval.toInt * 2 ^ slowDowns (replies.take k)).bmod (2 ^ w) * 1000000000).bmod
          (2 ^ 64) ∧
      (0 ≤ interval.toInt → 2 * (interval.toInt * 2 ^ slowDowns (replies.take k)) < 2 ^ w →
        interval.toInt * 2 ^ slowDowns (replies.take k) * 1000000000 < 2 ^ 63 →
        (pollOAuthConfirmation context interval replies).1[k].toInt =
          interval.toInt * 2 ^ slowDowns (replies.take k) * 1000000000) := by
  rw [pollOAuthConfirmation_getElem_sleep context interval replies k hk, toInt_sleepDuration,
    toInt_iterate_double]
  refine ⟨rfl, fun h0 hw h63 => ?_⟩
  have hd : 0 ≤ interval.toInt * 2 ^ slowDowns (replies.take k) :=
    Int.mul_nonneg h0 (by exact_mod_cast Nat.zero_le (2 ^ slowDowns (replies.take k)))
  rw [bmod_eq_self hd (by exact_mod_cast hw), bmod_eq_self (by omega) (by push_cast; omega)]

/-- A command line with no flag given; the API timeout is 30 s. -/
def sampleContext (w : Nat) : Context w :=
  ⟨fun _ => false, fun _ => "", fun _ => 0, fun _ => false, fun _ => 30000000000#64⟩

/-- The grant is pending, then the endpoint asks to slow down, then it grants. -/
def sampleTokenReplies : List (Except String TokenReply) :=
  [.ok ⟨"authorization_pending", ""⟩, .ok ⟨"slow_down", ""⟩, .ok ⟨"", "rt"⟩]

/-- On a 32-bit target a device-code interval of `2 ^ 30` s, doubled once on `slow_down`, wraps
to `-2 ^ 31` s: the third sleep is `-2 ^ 31 * 10 ^ 9` ns, and `time.Sleep` returns at once. -/
theorem pollOAuthConfirmation_sleep_wraps :
    ∃ hk : 2 < (pollOAuthConfirmation (sampleContext 32) 1073741824#32 sampleTokenReplies).1.length,
      (pollOAuthConfirmation (sampleContext 32) 1073741824#32 sampleTokenReplies).1[2].toInt =
        -2147483648000000000 :=
  ⟨by decide, (pollOAuthConfirmation_sleep (sampleContext 32) 1073741824#32 sampleTokenReplies 2
    (by decide)).1.trans (by decide)⟩

/-- The result of the loop is that of the first reply after which it does not poll again. -/
theorem pollOAuthConfirmation_snd (context : Context w) (interval : BitVec w)
    (replies : List (Except String TokenReply)) :
    (pollOAuthConfirmation context interval replies).2 =
      ((replies.find? fun reply => !pollsAgain reply).map (pollResult context)).getD
        (.error .polling) := by
  induction replies generalizing interval with
  | nil => rfl
  | cons reply replies ih =>
    rw [pollOAuthConfirmation_cons, List.find?_cons]
    cases pollsAgain reply <;> simp [ih]

/-- The loop polls up to and including the first reply after which it does not poll again. -/
theorem pollOAuthConfirmation_length (context : Context w) (interval : BitVec w)
    (replies : List (Except String TokenReply)) :
    (pollOAuthConfirmation context interval replies).1.length =
      min (replies.findIdx (fun reply => !pollsAgain reply) + 1) replies.length := by
  induction replies generalizing interval with
  | nil => rfl
  | cons reply replies ih =>
    rw [pollOAuthConfirmation_cons, List.findIdx_cons]
    cases pollsAgain reply
    · simp
    · simp only [if_true, Prod.map_fst, List.length_cons, ih, Bool.not_true, cond_false]
      omega

/-- **The outcome of the poll loop.** The loop polls up to and including the first reply after
which it does not poll again, and that reply alone decides the result: a reply without error
returns a client on its refresh token, and anything else is fatal. While every reply asks it to
poll again, the loop is still polling. -/
theorem pollOAuthConfirmation_outcome (context : Context w) (interval : BitVec w)
    (replies : List (Except String TokenReply)) :
    (pollOAuthConfirmation context interval replies).2 =
        ((replies.find? fun reply => !pollsAgain reply).map (pollResult context)).getD
          (.error .polling) ∧
      (pollOAuthConfirmation context interval replies).1.length =
        min (replies.findIdx (fun reply => !pollsAgain reply) + 1) replies.length :=
  ⟨pollOAuthConfirmation_snd context interval replies,
    pollOAuthConfirmation_length context interval replies⟩

/-- A successful poll ends on a reply without error, and returns a client on its refresh
token. -/
theorem pollOAuthConfirmation_eq_ok {context : Context w} {interval : BitVec w}
    {replies : List (Except String TokenReply)} {c : Client} {token : String}
    (h : (pollOAuthConfirmation context interval replies).2 = .ok (c, token)) :
    ∃ r, (replies.find? fun reply => !pollsAgain reply) = some (.ok r) ∧ r.error = "" ∧
      c = ⟨r.refreshToken, context.duration "gcp-api-timeout"⟩ ∧ token = r.refreshToken := by
  rw [pollOAuthConfirmation_snd] at h
  rcases hf : replies.find? (fun reply => !pollsAgain reply) with _ | (err | r) <;>
    simp [hf, pollResult] at h
  split at h
  · cases h
    exact ⟨r, rfl, ‹_›, rfl, rfl⟩
  · cases h

/-! ### The user's client and the robot account -/

/-- A sequenced computation succeeds exactly when each step succeeds in turn. -/
theorem bind_eq_ok {ε α β : Type} {x : Except ε α} {f : α → Except ε β} {b : β} :
    x >>= f = .ok b ↔ ∃ a, x = .ok a ∧ f a = .ok b := by
  cases x <;> simp [bind, Except.bind]

/-- `getUserClientFromUser`: request a device code, print where to enter it, and poll for the
user's grant with the interval of the reply. A failed request is fatal; a reply that does not
decode leaves every field zero, the interval too. -/
def getUserClientFromUser (context : Context w) (net : Net w) (t : Terminal) :
    Except Exit ((Client × String) × Terminal) :=
  match net.deviceCode with
  | .error err => .error (.fatal err)
  | .ok r =>
    let t := t.print ["Visit " ++ r.verificationURL ++ ", and enter this code. I'll wait for you.",
      r.userCode]
    match (pollOAuthConfirmation context r.interval net.tokens).2 with
    | .error e => .error e
    | .ok c => .ok (c, t)

/-- `getUserClientFromToken`: a client on the refresh token of `--gcp-user-refresh-token`. -/
def getUserClientFromToken (context : Context w) : Client :=
  ⟨context.string "gcp-user-refresh-token", context.duration "gcp-api-timeout"⟩

/-- `initRobotAccount`: the robot's XMPP JID and authorization code from the `createrobot`
reply. A failed request, a status other than 200, a body that does not decode and an
unsuccessful reply are fatal. -/
def initRobotAccount (net : Net w) (userClient : Client) : Except Exit (String × String) :=
  match net.createRobot userClient with
  | .error err => .error (.fatal err)
  | .ok response =>
    if response.statusCode ≠ 200 then
      .error (.fatal ("Failed to initialize robot account: " ++ response.status))
    else
      match response.body with
      | .error err => .error (.fatal err)
      | .ok robotInit =>
        if !robotInit.success then
          .error (.fatal ("Failed to initialize robot account: " ++ robotInit.message))
        else .ok (robotInit.xmppJID, robotInit.authCode)

/-- `verifyRobotAccount`: the robot's refresh token, from the exchange of its authorization
code. A failed exchange is fatal. -/
def verifyRobotAccount (net : Net w) (authCode : String) : Except Exit String :=
  match net.exchange authCode with
  | .error err => .error (.fatal err)
  | .ok token => .ok token

/-- `createRobotAccount`: the robot's XMPP JID and refresh token. -/
def createRobotAccount (net : Net w) (userClient : Client) : Except Exit (String × String) := do
  let (xmppJID, authCode) ← initRobotAccount net userClient
  let token ← verifyRobotAccount net authCode
  pure (xmppJID, token)

/-- A user client from the device flow is a client on the refresh token that the token
endpoint granted. -/
theorem getUserClientFromUser_token {context : Context w} {net : Net w} {t t' : Terminal}
    {c : Client} {token : String} (h : getUserClientFromUser context net t = .ok ((c, token), t')) :
    ∃ r, (net.tokens.find? fun reply => !pollsAgain reply) = some (.ok r) ∧ r.error = "" ∧
      c = ⟨r.refreshToken, context.duration "gcp-api-timeout"⟩ ∧ token = r.refreshToken := by
  unfold getUserClientFromUser at h
  split at h
  · cases h
  · split at h
    · cases h
    · cases h
      exact pollOAuthConfirmation_eq_ok ‹_›

/-- A robot account is created only from a `createrobot` reply with status 200 whose body
decodes and reports success; its refresh token is the exchange of the reply's code. -/
theorem createRobotAccount_eq_ok {net : Net w} {userClient : Client} {xmppJID token : String}
    (h : createRobotAccount net userClient = .ok (xmppJID, token)) :
    ∃ response robotInit, net.createRobot userClient = .ok response ∧
      response.statusCode = 200 ∧ response.body = .ok robotInit ∧ robotInit.success = true ∧
      xmppJID = robotInit.xmppJID ∧ net.exchange robotInit.authCode = .ok token := by
  simp only [createRobotAccount, bind_eq_ok] at h
  obtain ⟨⟨j, code⟩, hinit, token', hverify, h⟩ := h
  cases h
  unfold initRobotAccount at hinit
  split at hinit
  · cases hinit
  rename_i response hresponse
  split_ifs at hinit with hstatus
  split at hinit
  · cases hinit
  rename_i robotInit hbody
  split_ifs at hinit with hsuccess
  cases hinit
  unfold verifyRobotAccount at hverify
  split at hverify
  · cases hverify
  cases hverify
  refine ⟨response, robotInit, hresponse, not_not.1 hstatus, hbody, by simpa using hsuccess, rfl,
    ‹_›⟩

end CupsConnector
