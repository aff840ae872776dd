import CupsConnector.Util.OAuth

/-!
# The init command: `initConfigFile` (`gcp-cups-connector-util/init.go`)

`initConfigFile` asks whether to enable local and cloud printing. For cloud printing it also
asks for a share scope and a proxy name, gets the user's OAuth grant, and creates the robot
account. Then it writes the config file. A flag given on the command line replaces its
question.

* `Config w`: the fields of `lib.Config` that the command fills, its `uint` fields as wide as
  Go's `int`. `createCloudConfig`, `createLocalConfig` and `writeConfigFile` come from the
  source.
* `flagOr`, the stages of `initCloudConfig`, and `initConfigFile`: the command, with one
  definition for each block of the source.
* `initConfigFile_modes`: a written config enables local or cloud printing. When a mode's flag
  is given, the config follows the flag.
* `initConfigFile_userRefreshToken`: the config keeps the user's refresh token only for cloud
  printing with a share scope, and only when the token came from the device flow. It is then
  the token that the endpoint granted.
* `initConfigFile_answers`: with no mode flag given, the modes are the first two yes-or-no
  answers on standard input.
* `initConfigFile_credentials`: the robot credentials of a cloud config are the ones the server
  issued to the user's client. A config for local printing only holds none.
* `initConfigFile_readsNothing`: with the mode flags given, the command reads nothing from
  standard input. For cloud printing the share-scope and proxy-name flags must be given too.
-/

namespace CupsConnector

/-! ## The config file -/

/-- The fields of `lib.Config` (not under this source tree) that `createCloudConfig` fills, with
Go's zero values as defaults. A Go `uint` is `w` bits wide, as `int` is. -/
structure Config (w : Nat) where
  xmppJID : String := ""
  robotRefreshToken : String := ""
  userRefreshToken : String := ""
  shareScope : String := ""
  proxyName : String := ""
  xmppServer : String := ""
  xmppPort : UInt16 := 0
  xmppPingTimeout : String := ""
  xmppPingInterval : String := ""
  gcpBaseURL : String := ""
  gcpOAuthClientID : String := ""
  gcpOAuthClientSecret : String := ""
  gcpOAuthAuthURL : String := ""
  gcpOAuthTokenURL : String := ""
  gcpMaxConcurrentDownloads : BitVec w := 0
  cupsMaxConnections : BitVec w := 0
  cupsConnectTimeout : String := ""
  cupsJobQueueSize : BitVec w := 0
  cupsPrinterPollInterval : String := ""
  cupsPrinterAttributes : List String := []
  cupsJobFullUsername : Bool := false
  cupsIgnoreRawPrinters : Bool := false
  copyPrinterInfoToDisplayName : Bool := false
  prefixJobIDToJobTitle : Bool := false
  displayNamePrefix : String := ""
  monitorSocketFilename : String := ""
  snmpEnable : Bool := false
  snmpCommunity : String := ""
  snmpMaxConnections : BitVec w := 0
  localPrintingEnable : Bool := false
  cloudPrintingEnable : Bool := false
  logFileName : String := ""
  logFileMaxMegabytes : BitVec w := 0
  logMaxFiles : BitVec w := 0
  logLevel : String := ""
  deriving Repr

variable {w : Nat}

/-- Go's conversion `uint16(i)` of an `int`: sign-extended, then its low 16 bits. -/
def toUint16 (i : BitVec w) : UInt16 := UInt16.ofNat (i.signExtend 16).toNat

/-- Go's conversion `uint(i)` of an `int`: the same `w` bits, read unsigned. -/
def toUint (i : BitVec w) : BitVec w := i

/-- What the init command asks of the file system. `toFile` is `config.ToFile(context)`: the
name of the file written, or the error. `statNotExist` says whether `os.Stat` of a path fails
with a does-not-exist error. -/
structure Host (w : Nat) where
  toFile : Config w → Except String String
  statNotExist : String → Bool

section

-- `lib.DefaultConfig`, and Go's `filepath.Dir`: neither is under this source tree.
variable (defaultConfig : Config w) (filepathDir : String → String)

/-- `createCloudConfig`: a config for cloud printing and, if `localEnable`, local printing. -/
def createCloudConfig (context : Context w) (xmppJID robotRefreshToken userRefreshToken shareScope
    proxyName : String) (localEnable : Bool) : Config w where
  xmppJID := xmppJID
  robotRefreshToken := robotRefreshToken
  userRefreshToken := userRefreshToken
  shareScope := shareScope
  proxyName := proxyName
  xmppServer := defaultConfig.xmppServer
  xmppPort := toUint16 (context.int "xmpp-port")
  xmppPingTimeout := context.string "gcp-xmpp-ping-timeout"
  xmppPingInterval := context.string "gcp-xmpp-ping-interval-default"
  gcpBaseURL := defaultConfig.gcpBaseURL
  gcpOAuthClientID := defaultConfig.gcpOAuthClientID
  gcpOAuthClientSecret := defaultConfig.gcpOAuthClientSecret
  gcpOAuthAuthURL := defaultConfig.gcpOAuthAuthURL
  gcpOAuthTokenURL := defaultConfig.gcpOAuthTokenURL
  gcpMaxConcurrentDownloads := toUint (context.int "gcp-max-concurrent-downloads")
  cupsMaxConnections := toUint (context.int "cups-max-connections")
  cupsConnectTimeout := context.string "cups-connect-timeout"
  cupsJobQueueSize := toUint (context.int "cups-job-queue-size")
  cupsPrinterPollInterval := context.string "cups-printer-poll-interval"
  cupsPrinterAttributes := defaultConfig.cupsPrinterAttributes
  cupsJobFullUsername := context.bool "cups-job-full-username"
  cupsIgnoreRawPrinters := context.bool "cups-ignore-raw-printers"
  copyPrinterInfoToDisplayName := context.bool "copy-printer-info-to-display-name"
  prefixJobIDToJobTitle := context.bool "prefix-job-id-to-job-title"
  displayNamePrefix := context.string "display-name-prefix"
  monitorSocketFilename := context.string "monitor-socket-filename"
  snmpEnable := context.bool "snmp-enable"
  snmpCommunity := context.string "snmp-community"
  snmpMaxConnections := toUint (context.int "snmp-max-connections")
  localPrintingEnable := localEnable
  cloudPrintingEnable := true
  logFileName := context.string "log-file-name"
  logFileMaxMegabytes := toUint (context.int "log-file-max-megabytes")
  logMaxFiles := toUint (context.int "log-max-files")
  logLevel := context.string "log-level"

/-- `createLocalConfig`: a config for local printing only. The XMPP, OAuth and share fields keep
Go's zero values. -/
def createLocalConfig (context : Context w) : Config w where
  cupsMaxConnections := toUint (context.int "cups-max-connections")
  cupsConnectTimeout := context.string "cups-connect-timeout"
  cupsJobQueueSize := toUint (context.int "cups-job-queue-size")
  cupsPrinterPollInterval := context.string "cups-printer-poll-interval"
  cupsPrinterAttributes := defaultConfig.cupsPrinterAttributes
  cupsJobFullUsername := context.bool "cups-job-full-username"
  cupsIgnoreRawPrinters := context.bool "cups-ignore-raw-printers"
  copyPrinterInfoToDisplayName := context.bool "copy-printer-info-to-display-name"
  prefixJobIDToJobTitle := context.bool "prefix-job-id-to-job-title"
  displayNamePrefix := context.string "display-name-prefix"
  monitorSocketFilename := context.string "monitor-socket-filename"
  snmpEnable := context.bool "snmp-enable"
  snmpCommunity := context.string "snmp-community"
  snmpMaxConnections := toUint (context.int "snmp-max-connections")
  localPrintingEnable := true
  cloudPrintingEnable := false
  logFileName := context.string "log-file-name"
  logFileMaxMegabytes := toUint (context.int "log-file-max-megabytes")
  logMaxFiles := toUint (context.int "log-max-files")
  logLevel := context.string "log-level"

/-- `writeConfigFile`: the name of the file written. A failed write is fatal. -/
def writeConfigFile (host : Host w) (config : Config w) : Except Exit String :=
  match host.toFile config with
  | .error err => .error (.fatal err)
  | .ok configFilename => .ok configFilename

/-! ## The questions of `initConfigFile` -/

/-- The value of a flag when it is given (`context.IsSet`), else the answer asked for on the
terminal. Every question block of `initConfigFile` has this shape. -/
def flagOr {α : Type} (context : Context w) (flag : String) (given : α)
    (ask : Terminal → Except Exit (α × Terminal)) (t : Terminal) : Except Exit (α × Terminal) :=
  if context.isSet flag then .ok (given, t) else ask t

/-- The block for `local-printing-enable` or `cloud-printing-enable`: print two lines that
explain the mode, then ask the question. -/
def askEnable (context : Context w) (flag : String) (explanation : List String)
    (question : String) : Terminal → Except Exit (Bool × Terminal) :=
  flagOr context flag (context.bool flag) fun t => scanYesOrNo question (t.print explanation)

/-- The share-scope block: no scope unless the user chooses to retain the token. -/
def askShareScope (context : Context w) : Terminal → Except Exit (String × Terminal) :=
  flagOr context "share-scope" (context.string "share-scope") fun t => do
    let (retain, t) ← scanYesOrNo "Retain the user OAuth token to enable automatic sharing?" t
    if retain then scanNonEmptyString "User or group email address to share with:" t
    else pure ("", t)

/-- The proxy-name block. -/
def askProxyName (context : Context w) : Terminal → Except Exit (String × Terminal) :=
  flagOr context "proxy-name" (context.string "proxy-name")
    (scanNonEmptyString "Proxy name for this GCP CUPS Connector:")

/-- The user-client block: the user's client, and the user refresh token that the config keeps.
A token given by flag is not kept. A token from the device flow is kept only when there is a
share scope. -/
def askUserClient (context : Context w) (net : Net w) (shareScope : String) :
    Terminal → Except Exit ((Client × String) × Terminal) :=
  flagOr context "gcp-user-refresh-token" (getUserClientFromToken context, "") fun t => do
    let ((userClient, urt), t) ← getUserClientFromUser context net t
    pure ((userClient, if shareScope ≠ "" then urt else ""), t)

/-- The cloud branch of `initConfigFile`. -/
def initCloudConfig (context : Context w) (net : Net w) (localEnable : Bool) (t : Terminal) :
    Except Exit (Config w × Terminal) := do
  let (shareScope, t) ← askShareScope context t
  let (proxyName, t) ← askProxyName context t
  let ((userClient, userRefreshToken), t) ← askUserClient context net shareScope t
  let (xmppJID, robotRefreshToken) ← createRobotAccount net userClient
  pure (createCloudConfig defaultConfig context xmppJID robotRefreshToken userRefreshToken
      shareScope proxyName localEnable,
    t.print ["Acquired OAuth credentials for robot account", ""])

/-! ## The command -/

/-- `initConfigFile`: the config written, and the terminal afterwards. -/
def initConfigFile (context : Context w) (net : Net w) (host : Host w) (t : Terminal) :
    Except Exit (Config w × Terminal) := do
  let (localEnable, t) ← askEnable context "local-printing-enable"
    ["\"Local printing\" means that clients print directly to the connector via local subnet,",
      "and that an Internet connection is neither necessary nor used."]
    "Enable local printing?" t
  let (cloudEnable, t) ← askEnable context "cloud-printing-enable"
    ["\"Cloud printing\" means that clients can print from anywhere on the Internet,",
      "and that printers must be explicitly shared with users."]
    "Enable cloud printing?" t
  if !localEnable && !cloudEnable then
    throw (.fatal ("Try again. Either local or cloud (or both) must be enabled for the " ++
      "connector to do something."))
  let (config, t) ← if cloudEnable then initCloudConfig defaultConfig context net localEnable t
    else pure (createLocalConfig defaultConfig context, t)
  let configFilename ← writeConfigFile host config
  let socketDirectory := filepathDir (context.string "monitor-socket-filename")
  pure (config, t.print (["The config file " ++ configFilename ++ " is ready to rock."] ++
    (if cloudEnable then ["Keep it somewhere safe, as it contains an OAuth refresh token."]
      else []) ++
    (if host.statNotExist socketDirectory then
      ["", "When the connector runs, be sure the socket directory " ++ socketDirectory ++
        " exists."]
      else [])))

end

/-! ## Runs that succeed -/

section Succeed

variable {defaultConfig : Config w} {filepathDir : String → String} {context : Context w}
  {net : Net w} {host : Host w} {t t' : Terminal} {config : Config w}

theorem flagOr_of_isSet {α : Type} {flag : String} {given : α}
    {ask : Terminal → Except Exit (α × Terminal)} (h : context.isSet flag = true) :
    flagOr context flag given ask t = .ok (given, t) := by
  simp [flagOr, h]

theorem askEnable_given {flag : String} {explanation : List String} {question : String}
    {b : Bool} (h : askEnable context flag explanation question t = .ok (b, t'))
    (hset : context.isSet flag = true) : b = context.bool flag := by
  rw [askEnable, flagOr_of_isSet hset] at h
  cases h; rfl

/-- A mode asked on the terminal is the value of the first word that parses as a boolean. -/
theorem askEnable_asked {flag : String} {explanation : List String} {question : String}
    {b : Bool} (h : askEnable context flag explanation question t = .ok (b, t'))
    (hset : context.isSet flag = false) :
    ∃ pre w, t.input = pre ++ w :: t'.input ∧ (∀ x ∈ pre, (stringToBool x).1 = false) ∧
      (stringToBool w).1 = true ∧ b = (stringToBool w).2 := by
  simp only [askEnable, flagOr, hset, Bool.false_eq_true, if_false, scanYesOrNo] at h
  exact scanYesOrNoLoop_eq_ok h

/-- The user-client block: a client on the flag's token, which the config does not keep, or a
client from the device flow, whose token the config keeps only for a share scope. -/
theorem askUserClient_eq_ok {shareScope : String} {c : Client} {token : String}
    (h : askUserClient context net shareScope t = .ok ((c, token), t')) :
    (context.isSet "gcp-user-refresh-token" = true ∧ c = getUserClientFromToken context ∧
        token = "") ∨
      (context.isSet "gcp-user-refresh-token" = false ∧
        ∃ r, (net.tokens.find? fun reply => !pollsAgain reply) = some (.ok r) ∧ r.error = "" ∧
          c = ⟨r.refreshToken, context.duration "gcp-api-timeout"⟩ ∧
          token = if shareScope ≠ "" then r.refreshToken else "") := by
  unfold askUserClient flagOr at h
  cases hset : context.isSet "gcp-user-refresh-token"
  · simp only [hset, Bool.false_eq_true, if_false, bind_eq_ok] at h
    obtain ⟨⟨⟨c', urt⟩, t₀⟩, hu, h⟩ := h
    cases h
    obtain ⟨r, hr, he, rfl, rfl⟩ := getUserClientFromUser_token hu
    exact .inr ⟨rfl, r, hr, he, rfl, rfl⟩
  · simp only [hset, if_true] at h
    cases h
    exact .inl ⟨rfl, rfl, rfl⟩

/-- What a successful cloud branch went through. -/
theorem initCloudConfig_eq_ok {localEnable : Bool}
    (h : initCloudConfig defaultConfig context net localEnable t = .ok (config, t')) :
    ∃ shareScope proxyName userClient userRefreshToken xmppJID robotRefreshToken t₁ t₂ t₃,
      askShareScope context t = .ok (shareScope, t₁) ∧
      askProxyName context t₁ = .ok (proxyName, t₂) ∧
      askUserClient context net shareScope t₂ = .ok ((userClient, userRefreshToken), t₃) ∧
      createRobotAccount net userClient = .ok (xmppJID, robotRefreshToken) ∧
      config = createCloudConfig defaultConfig context xmppJID robotRefreshToken userRefreshToken
        shareScope proxyName localEnable := by
  simp only [initCloudConfig, bind_eq_ok] at h
  obtain ⟨⟨s, t₁⟩, h1, ⟨p, t₂⟩, h2, ⟨⟨c, u⟩, t₃⟩, h3, ⟨j, r⟩, h4, h5⟩ := h
  exact ⟨s, p, c, u, j, r, t₁, t₂, t₃, h1, h2, h3, h4, (Prod.mk.inj (Except.ok.inj h5)).1.symm⟩

/-- What a successful run went through: the two mode answers, at least one of them enabled, and
the config of the branch taken. -/
theorem initConfigFile_eq_ok
    (h : initConfigFile defaultConfig filepathDir context net host t = .ok (config, t')) :
    ∃ localEnable cloudEnable t₁ t₂,
      (∃ explanation question, askEnable context "local-printing-enable" explanation question t =
        .ok (localEnable, t₁)) ∧
      (∃ explanation question, askEnable context "cloud-printing-enable" explanation question t₁ =
        .ok (cloudEnable, t₂)) ∧
      (localEnable || cloudEnable) = true ∧
      if cloudEnable then
        ∃ t₃, initCloudConfig defaultConfig context net localEnable t₂ = .ok (config, t₃)
      else config = createLocalConfig defaultConfig context := by
  simp only [initConfigFile, bind_eq_ok] at h
  obtain ⟨⟨l, t₁⟩, h1, ⟨c, t₂⟩, h2, h⟩ := h
  refine ⟨l, c, t₁, t₂, ⟨_, _, h1⟩, ⟨_, _, h2⟩, ?_⟩
  cases l <;> cases c <;>
    simp [bind_eq_ok, throw, throwThe, MonadExceptOf.throw, Except.pure, pure] at h ⊢
  · obtain ⟨_, b, hc, _, _, rfl, _⟩ := h
    exact ⟨b, hc⟩
  · exact h.choose_spec.2.1.symm
  · obtain ⟨_, b, hc, _, _, rfl, _⟩ := h
    exact ⟨b, hc⟩

/-- The modes of the config of either branch are the two answers. -/
theorem initConfigFile_branch_modes {t₂ : Terminal} {localEnable cloudEnable : Bool}
    (hlc : (localEnable || cloudEnable) = true)
    (hconfig : if cloudEnable then
        ∃ t₃, initCloudConfig defaultConfig context net localEnable t₂ = .ok (config, t₃)
      else config = createLocalConfig defaultConfig context) :
    config.localPrintingEnable = localEnable ∧ config.cloudPrintingEnable = cloudEnable := by
  cases cloudEnable
  · obtain rfl : localEnable = true := by simpa using hlc
    simp only [if_false, Bool.false_eq_true] at hconfig
    exact hconfig ▸ ⟨rfl, rfl⟩
  · obtain ⟨_, h₃⟩ := hconfig
    obtain ⟨_, _, _, _, _, _, _, _, _, -, -, -, -, rfl⟩ := initCloudConfig_eq_ok h₃
    exact ⟨rfl, rfl⟩

end Succeed

/-- **The modes of a written config.** Every config that `initConfigFile` writes enables local or
cloud printing, and a mode whose flag is given is enabled exactly when the flag says so. -/
theorem initConfigFile_modes (defaultConfig : Config w) (filepathDir : String → String)
    (context : Context w) (net : Net w) (host : Host w) (t : Terminal) (config : Config w)
    (t' : Terminal)
    (h : initConfigFile defaultConfig filepathDir context net host t = .ok (config, t')) :
    (config.localPrintingEnable || config.cloudPrintingEnable) = true ∧
      (context.isSet "local-printing-enable" = true →
        config.localPrintingEnable = context.bool "local-printing-enable") ∧
      (context.isSet "cloud-printing-enable" = true →
        config.cloudPrintingEnable = context.bool "cloud-printing-enable") := by
  obtain ⟨l, c, _, _, ⟨_, _, h1⟩, ⟨_, _, h2⟩, hlc, hconfig⟩ := initConfigFile_eq_ok h
  obtain ⟨rfl, rfl⟩ := initConfigFile_branch_modes hlc hconfig
  exact ⟨hlc, askEnable_given h1, askEnable_given h2⟩

/-- Both modes given by flag, cloud printing only; the share scope and proxy name are given by
flag, and the API timeout is 30 s. -/
def cloudContext : Context 64 where
  isSet flag := flag == "local-printing-enable" || flag == "cloud-printing-enable" ||
    flag == "share-scope" || flag == "proxy-name"
  string flag := if flag == "share-scope" then "team" else
    if flag == "proxy-name" then "office" else ""
  int _ := 0
  bool flag := flag == "cloud-printing-enable"
  duration _ := 30000000000#64

/-- The user grants the device code after one pending poll, and the robot account is created. -/
def grantingNet : Net 64 where
  deviceCode := .ok ⟨"ABCD-EFGH", "verification-page", 5⟩
  tokens := [.ok ⟨"authorization_pending", ""⟩, .ok ⟨"", "user-token"⟩]
  createRobot _ := .ok ⟨200, "200 OK", .ok ⟨true, "", "robot-jid", "auth-code"⟩⟩
  exchange _ := .ok "robot-token"

/-- The config file is written, and the socket directory exists. -/
def writingHost : Host 64 := ⟨fun _ => .ok "gcp-cups-connector.config.json", fun _ => false⟩

theorem initConfigFile_modes_sample :
    ∃ config t', initConfigFile {} id cloudContext grantingNet writingHost ⟨[], []⟩ =
        .ok (config, t') ∧
      (config.localPrintingEnable || config.cloudPrintingEnable) = true ∧
        (cloudContext.isSet "local-printing-enable" = true →
          config.localPrintingEnable = cloudContext.bool "local-printing-enable") ∧
        (cloudContext.isSet "cloud-printing-enable" = true →
          config.cloudPrintingEnable = cloudContext.bool "cloud-printing-enable") :=
  ⟨_, _, rfl, initConfigFile_modes {} id cloudContext grantingNet writingHost ⟨[], []⟩ _ _ rfl⟩

/-- **The user's refresh token.** A written config keeps a user refresh token only when it is
for cloud printing, printers are shared (a share scope), and the token was not given by flag.
The token is then the one that the token endpoint granted, on the first reply that ends the
poll loop. -/
theorem initConfigFile_userRefreshToken (defaultConfig : Config w) (filepathDir : String → String)
    (context : Context w) (net : Net w) (host : Host w) (t : Terminal) (config : Config w)
    (t' : Terminal)
    (h : initConfigFile defaultConfig filepathDir context net host t = .ok (config, t'))
    (htoken : config.userRefreshToken ≠ "") :
    config.cloudPrintingEnable = true ∧ config.shareScope ≠ "" ∧
      context.isSet "gcp-user-refresh-token" = false ∧
      ∃ r, (net.tokens.find? fun reply => !pollsAgain reply) = some (.ok r) ∧ r.error = "" ∧
        config.userRefreshToken = r.refreshToken := by
  obtain ⟨_, c, _, _, -, -, -, hconfig⟩ := initConfigFile_eq_ok h
  cases c
  · simp only [if_false, Bool.false_eq_true] at hconfig
    exact absurd (hconfig ▸ rfl) htoken
  · obtain ⟨_, h₃⟩ := hconfig
    obtain ⟨_, _, _, _, _, _, _, _, _, -, -, hu, -, rfl⟩ := initCloudConfig_eq_ok h₃
    rcases askUserClient_eq_ok hu with ⟨-, -, htoken'⟩ | ⟨hset, r, hr, he, -, htoken'⟩
    · exact absurd htoken' htoken
    · rw [htoken'] at htoken ⊢
      split_ifs at htoken ⊢ with hs
      · exact ⟨rfl, hs, hset, r, hr, he, rfl⟩
      · exact absurd rfl htoken

theorem initConfigFile_userRefreshToken_sample :
    ∃ config t', initConfigFile {} id cloudContext grantingNet writingHost ⟨[], []⟩ =
        .ok (config, t') ∧ config.userRefreshToken ≠ "" ∧
      config.cloudPrintingEnable = true ∧ config.shareScope ≠ "" ∧
        cloudContext.isSet "gcp-user-refresh-token" = false ∧
        ∃ r, (grantingNet.tokens.find? fun reply => !pollsAgain reply) = some (.ok r) ∧
          r.error = "" ∧ config.userRefreshToken = r.refreshToken :=
  ⟨_, _, rfl, by decide,
    initConfigFile_userRefreshToken {} id cloudContext grantingNet writingHost ⟨[], []⟩ _ _ rfl
      (by decide)⟩

/-- **The answers on the terminal.** With neither mode flag given, the config's local and cloud
modes are the values of the first and the second word on standard input that parse as a
boolean. -/
theorem initConfigFile_answers (defaultConfig : Config w) (filepathDir : String → String)
    (context : Context w) (net : Net w) (host : Host w) (t : Terminal) (config : Config w)
    (t' : Terminal)
    (h : initConfigFile defaultConfig filepathDir context net host t = .ok (config, t'))
    (hlocal : context.isSet "local-printing-enable" = false)
    (hcloud : context.isSet "cloud-printing-enable" = false) :
    ∃ pre₁ w₁ pre₂ w₂ rest, t.input = pre₁ ++ w₁ :: (pre₂ ++ w₂ :: rest) ∧
      (∀ x ∈ pre₁ ++ pre₂, (stringToBool x).1 = false) ∧
      (stringToBool w₁).1 = true ∧ (stringToBool w₂).1 = true ∧
      config.localPrintingEnable = (stringToBool w₁).2 ∧
      config.cloudPrintingEnable = (stringToBool w₂).2 := by
  obtain ⟨l, c, t₁, t₂, ⟨_, _, h1⟩, ⟨_, _, h2⟩, hlc, hconfig⟩ := initConfigFile_eq_ok h
  obtain ⟨rfl, rfl⟩ := initConfigFile_branch_modes hlc hconfig
  obtain ⟨pre₁, w₁, hin₁, hpre₁, hw₁, hl⟩ := askEnable_asked h1 hlocal
  obtain ⟨pre₂, w₂, hin₂, hpre₂, hw₂, hc⟩ := askEnable_asked h2 hcloud
  exact ⟨pre₁, w₁, pre₂, w₂, t₂.input, by rw [hin₁, hin₂], List.forall_mem_append.2 ⟨hpre₁, hpre₂⟩,
    hw₁, hw₂, hl, hc⟩

theorem initConfigFile_answers_sample :
    ∃ config t', initConfigFile {} id (sampleContext 64) grantingNet writingHost
        ⟨["maybe", "yes", "?", "no"], []⟩ = .ok (config, t') ∧
      (sampleContext 64).isSet "local-printing-enable" = false ∧
      (sampleContext 64).isSet "cloud-printing-enable" = false ∧
      ∃ pre₁ w₁ pre₂ w₂ rest, ["maybe", "yes", "?", "no"] = pre₁ ++ w₁ :: (pre₂ ++ w₂ :: rest) ∧
        (∀ x ∈ pre₁ ++ pre₂, (stringToBool x).1 = false) ∧
        (stringToBool w₁).1 = true ∧ (stringToBool w₂).1 = true ∧
        config.localPrintingEnable = (stringToBool w₁).2 ∧
        config.cloudPrintingEnable = (stringToBool w₂).2 :=
  ⟨_, _, rfl, rfl, rfl,
    initConfigFile_answers {} id (sampleContext 64) grantingNet writingHost
      ⟨["maybe", "yes", "?", "no"], []⟩ _ _ rfl rfl rfl⟩

/-- **The robot's credentials.** A config for cloud printing holds the XMPP JID of a `createrobot`
reply with status 200 that reports success, and the refresh token of the exchange of that reply's
authorization code. The robot was created with the user's client: on the flag's refresh token,
or on the token that the device flow granted. A config for local printing only holds no
credentials. -/
theorem initConfigFile_credentials (defaultConfig : Config w) (filepathDir : String → String)
    (context : Context w) (net : Net w) (host : Host w) (t : Terminal) (config : Config w)
    (t' : Terminal)
    (h : initConfigFile defaultConfig filepathDir context net host t = .ok (config, t')) :
    if config.cloudPrintingEnable then
      ∃ userClient response robotInit,
        (userClient = getUserClientFromToken context ∨
          ∃ r, (net.tokens.find? fun reply => !pollsAgain reply) = some (.ok r) ∧
            r.error = "" ∧ userClient = ⟨r.refreshToken, context.duration "gcp-api-timeout"⟩) ∧
        net.createRobot userClient = .ok response ∧ response.statusCode = 200 ∧
        response.body = .ok robotInit ∧ robotInit.success = true ∧
        config.xmppJID = robotInit.xmppJID ∧
        net.exchange robotInit.authCode = .ok config.robotRefreshToken
    else config.xmppJID = "" ∧ config.robotRefreshToken = "" ∧ config.userRefreshToken = "" := by
  obtain ⟨_, c, _, _, -, -, -, hconfig⟩ := initConfigFile_eq_ok h
  cases c
  · simp only [if_false, Bool.false_eq_true] at hconfig
    subst hconfig
    exact ⟨rfl, rfl, rfl⟩
  · obtain ⟨_, h₃⟩ := hconfig
    obtain ⟨_, _, uc, _, _, _, _, _, _, -, -, hu, hrobot, rfl⟩ := initCloudConfig_eq_ok h₃
    obtain ⟨response, robotInit, hcreate⟩ := createRobotAccount_eq_ok hrobot
    refine ⟨uc, response, robotInit, ?_, hcreate⟩
    rcases askUserClient_eq_ok hu with ⟨-, rfl, -⟩ | ⟨-, r, hr, he, rfl, -⟩
    · exact .inl rfl
    · exact .inr ⟨r, hr, he, rfl⟩

theorem initConfigFile_credentials_sample :
    ∃ config t', initConfigFile {} id cloudContext grantingNet writingHost ⟨[], []⟩ =
        .ok (config, t') ∧
      if config.cloudPrintingEnable then
        ∃ userClient response robotInit,
          (userClient = getUserClientFromToken cloudContext ∨
            ∃ r, (grantingNet.tokens.find? fun reply => !pollsAgain reply) = some (.ok r) ∧
              r.error = "" ∧
              userClient = ⟨r.refreshToken, cloudContext.duration "gcp-api-timeout"⟩) ∧
          grantingNet.createRobot userClient = .ok response ∧ response.statusCode = 200 ∧
          response.body = .ok robotInit ∧ robotInit.success = true ∧
          config.xmppJID = robotInit.xmppJID ∧
          grantingNet.exchange robotInit.authCode = .ok config.robotRefreshToken
      else config.xmppJID = "" ∧ config.robotRefreshToken = "" ∧ config.userRefreshToken = "" :=
  ⟨_, _, rfl,
    initConfigFile_credentials {} id cloudContext grantingNet writingHost ⟨[], []⟩ _ _ rfl⟩

/-! ## Runs that read nothing -/

/-- A stage of the init command that reads no word from standard input: on any terminal it does
what it does when standard input is at its end, and it leaves standard input as it was. -/
def ReadsNothing {α : Type} (f : Terminal → Except Exit (α × Terminal)) : Prop :=
  ∀ t : Terminal, f t = (f ⟨[], t.output⟩).map fun r => (r.1, ⟨t.input, r.2.output⟩)

namespace ReadsNothing

variable {α β : Type} {f g : Terminal → Except Exit (α × Terminal)}

/-- Two stages in sequence read nothing when each does. -/
theorem bind {k : α × Terminal → Except Exit (β × Terminal)} (hf : ReadsNothing f)
    (hk : ∀ a, ReadsNothing fun t => k (a, t)) : ReadsNothing fun t => f t >>= k := by
  intro t
  have h0 := hf ⟨[], t.output⟩
  dsimp only
  rw [hf t]
  rcases hr : f ⟨[], t.output⟩ with e | ⟨a, ⟨input₀, output₀⟩⟩
  · rfl
  · rw [hr] at h0
    obtain rfl : input₀ = [] := by simpa [Except.map] using h0
    exact hk a ⟨t.input, output₀⟩

/-- A computation off the terminal, followed by stages that read nothing. -/
theorem bind_const {x : Except Exit α} {k : α → Terminal → Except Exit (β × Terminal)}
    (hk : ∀ a, ReadsNothing (k a)) : ReadsNothing fun t => x >>= fun a => k a t := by
  intro t
  cases x with
  | error e => rfl
  | ok a => exact hk a t

theorem print {a : α} {lines : List String} : ReadsNothing fun t => .ok (a, t.print lines) :=
  fun _ => rfl

theorem ite {c : Prop} [Decidable c] (hf : ReadsNothing f) (hg : ReadsNothing g) :
    ReadsNothing fun t => if c then f t else g t := by
  by_cases h : c <;> simpa [h]

/-- A question whose flag is given reads nothing, and passes the flag's value on. -/
theorem given {context : Context w} {flag : String} {given : α}
    {ask : Terminal → Except Exit (α × Terminal)} {k : α × Terminal → Except Exit (β × Terminal)}
    (h : context.isSet flag = true) (hk : ReadsNothing fun t => k (given, t)) :
    ReadsNothing fun t => flagOr context flag given ask t >>= k := by
  simpa only [flagOr_of_isSet h] using hk

end ReadsNothing

theorem getUserClientFromUser_readsNothing (context : Context w) (net : Net w) :
    ReadsNothing (getUserClientFromUser context net) := by
  intro t
  unfold getUserClientFromUser
  split
  · rfl
  · split <;> rfl

/-- The user-client block reads nothing, whether or not its flag is given. -/
theorem askUserClient_readsNothing (context : Context w) (net : Net w) (shareScope : String) :
    ReadsNothing (askUserClient context net shareScope) := by
  intro t
  unfold askUserClient flagOr
  cases context.isSet "gcp-user-refresh-token"
  · exact ReadsNothing.bind (getUserClientFromUser_readsNothing context net) (fun _ _ => rfl) t
  · rfl

theorem initCloudConfig_readsNothing (defaultConfig : Config w) (context : Context w) (net : Net w)
    (localEnable : Bool) (hscope : context.isSet "share-scope" = true)
    (hproxy : context.isSet "proxy-name" = true) :
    ReadsNothing (initCloudConfig defaultConfig context net localEnable) := by
  unfold initCloudConfig askShareScope askProxyName
  exact ReadsNothing.given hscope <| ReadsNothing.given hproxy <|
    ReadsNothing.bind (askUserClient_readsNothing _ _ _) fun _ =>
      ReadsNothing.bind_const fun _ => ReadsNothing.print

/-- **The command without a terminal.** With both mode flags given, and for cloud printing the
share-scope and proxy-name flags too, `initConfigFile` reads nothing from standard input. It
ends as it would with standard input closed, and it leaves standard input as it was. -/
theorem initConfigFile_readsNothing (defaultConfig : Config w) (filepathDir : String → String)
    (context : Context w) (net : Net w) (host : Host w)
    (hlocal : context.isSet "local-printing-enable" = true)
    (hcloud : context.isSet "cloud-printing-enable" = true)
    (hflags : context.bool "cloud-printing-enable" = true →
      context.isSet "share-scope" = true ∧ context.isSet "proxy-name" = true)
    (t : Terminal) :
    initConfigFile defaultConfig filepathDir context net host t =
      (initConfigFile defaultConfig filepathDir context net host ⟨[], t.output⟩).map
        fun r => (r.1, ⟨t.input, r.2.output⟩) := by
  revert t
  unfold initConfigFile askEnable
  refine ReadsNothing.given hlocal <| ReadsNothing.given hcloud <|
    ReadsNothing.ite (fun _ => rfl) ?_
  simp only [pure_bind]
  cases hc : context.bool "cloud-printing-enable"
  · simp only [Bool.false_eq_true, ↓reduceIte]
    exact ReadsNothing.bind_const fun _ => ReadsNothing.print
  · refine ReadsNothing.bind (initCloudConfig_readsNothing _ _ _ _ (hflags hc).1 (hflags hc).2)
      fun _ => ?_
    dsimp only
    exact ReadsNothing.bind_const fun _ => ReadsNothing.print

theorem initConfigFile_readsNothing_sample :
    cloudContext.isSet "local-printing-enable" = true ∧
      cloudContext.isSet "cloud-printing-enable" = true ∧
      (cloudContext.bool "cloud-printing-enable" = true →
        cloudContext.isSet "share-scope" = true ∧ cloudContext.isSet "proxy-name" = true) ∧
      initConfigFile {} id cloudContext grantingNet writingHost ⟨["y", "office"], []⟩ =
        (initConfigFile {} id cloudContext grantingNet writingHost ⟨[], []⟩).map
          fun r => (r.1, ⟨["y", "office"], r.2.output⟩) :=
  ⟨by decide, by decide, by decide,
    initConfigFile_readsNothing {} id cloudContext grantingNet writingHost (by decide) (by decide)
      (by decide) ⟨["y", "office"], []⟩⟩

end CupsConnector
