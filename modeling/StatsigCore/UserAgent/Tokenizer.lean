-- The tokenizer of user agents (`evaluation/user_agent_parsing/statsig_uaparser/tokenizer.rs` and
-- `window_iter.rs`). It goes over the words of the agent with three words of lookahead, and a branch
-- may take several words at once.
import Mathlib.Data.List.DropRight
import Mathlib.Data.List.Infix
import StatsigCore.IdLists.IdList

namespace statsig_rust.evaluation.user_agent_parsing

open id_lists_adapter (Text len)

/-! ## Texts -/

def starts_with (text : Text) (pattern : String) : Bool := pattern.toList.isPrefixOf text

/-- `str::contains`. -/
def contains (text : Text) (pattern : String) : Bool :=
  text.tails.any fun tail => pattern.toList.isPrefixOf tail

/-- `Split` for the words of an agent. Two separators in a row have an empty word between them. -/
def words (input : Text) : List Text := input.splitOnP fun c => c = ';' || c = ' '

/-- What stands before the first occurrence of the pattern, or the whole text. -/
def before (pattern : Text) : Text → Text
  | [] => []
  | c :: text => if pattern.isPrefixOf (c :: text) then [] else c :: before pattern text

/-- The second part of `split(pattern)`, for a text that begins with the pattern. -/
def second_part (text : Text) (pattern : String) : Text :=
  before pattern.toList (text.drop pattern.toList.length)

/-- `split_once(['/', ';', ':'])`. -/
def split_once (text : Text) : Option (Text × Text) :=
  let is_separator := fun c : Char => c = '/' || c = ';' || c = ':'
  match text.dropWhile fun c => !is_separator c with
  | [] => none
  | _ :: version => some (text.takeWhile (fun c => !is_separator c), version)

def is_invalid (c : Char) : Bool :=
  c = '(' || c = ')' || c = ';' || c = ',' || c = '+' || c = '_' || c = '"'

def trim_invalid_chars (s : Option Text) : Option Text :=
  match s.map fun s => (s.dropWhile is_invalid).rdropWhile is_invalid with
  | some [] => none
  | trimmed => trimmed

def starts_with_number (s : Option Text) : Bool :=
  match s with
  | some (c :: _) => c.isDigit
  | _ => false

/-! ## The window -/

/-- The words that are in the window, and the words that the iterator has yet to give. -/
structure WindowIter where
  iter : List Text
  window : List Text

namespace WindowIter

/-- `iter.next()`, and the word goes to the back of the window. -/
def push_next (win : WindowIter) : WindowIter :=
  match win.iter with
  | [] => win
  | word :: iter => { iter, window := win.window ++ [word] }

def new (input : Text) : WindowIter :=
  let start : WindowIter := { iter := words input, window := [] }
  start.push_next.push_next.push_next.push_next

def slide_window_by (win : WindowIter) : Nat → WindowIter
  | 0 => win
  | n + 1 =>
    let win := { win with window := win.window.tail }
    win.push_next.slide_window_by n

def is_empty (win : WindowIter) : Bool := win.window.isEmpty

end WindowIter

/-! ## The result -/

structure Token where
  position : Nat
  tag : Text
  version : Option Text
deriving DecidableEq

structure TokenizerResult where
  position : Nat := 0
  tokens : List Token := []
  possible_os_token : Option Token := none
  possible_browser_token : Option Token := none
  linux_hint : Bool := false
  ios_hint : Bool := false
  macos_hint : Bool := false
  windows_hint : Bool := false
  mobile_hint : Bool := false
  safari_hint : Bool := false
  playstation_hint : Bool := false
  huawei_hint : Bool := false
  cfnetwork_hint : Bool := false
  crawler_hint : Bool := false
  bot_detected : Bool := false
deriving DecidableEq

namespace TokenizerResult

variable (result : TokenizerResult) (tag : Text) (version : Option Text)

def token : Token := { position := result.position, tag, version }

def add_tag : TokenizerResult :=
  { result with
    tokens := result.tokens ++ [result.token tag version]
    position := result.position + 1 }

def add_possible_os_tag_impl : TokenizerResult :=
  if result.possible_os_token.isSome then result
  else if version.isNone then result
  else { result with possible_os_token := some (result.token tag version) }

def add_possible_browser_tag_impl : TokenizerResult :=
  if version.isNone then result
  else { result with possible_browser_token := some (result.token tag version) }

def add_possible_os_and_browser_tag : TokenizerResult :=
  ((result.add_possible_os_tag_impl tag version).add_possible_browser_tag_impl tag version).add_tag
    tag version

def add_possible_os_tag : TokenizerResult :=
  (result.add_possible_os_tag_impl tag version).add_tag tag version

def add_possible_os_tag_override_existing : TokenizerResult :=
  { result with possible_os_token := some (result.token tag version) }

def add_possible_browser_tag : TokenizerResult :=
  (result.add_possible_browser_tag_impl tag version).add_tag tag version

/-- Only the first bot counts: the later words of a bot's agent are about its url. -/
def add_possible_browser_tag_for_bot : TokenizerResult :=
  if result.bot_detected then result
  else { result with
    bot_detected := true
    possible_browser_token := some (result.token tag version) }

/-- An iOS browser on what the agent calls a Mac. -/
def mac_is_ios : TokenizerResult :=
  match result.possible_os_token with
  | some os_token =>
    if os_token.tag = "Mac OS X".toList then
      result.add_possible_os_tag_override_existing "iOS".toList none
    else result
  | none => result

end TokenizerResult

/-! ## One turn -/

def consume_if_numeric (win : WindowIter) (tag : Option Text) : Option Text × WindowIter :=
  if starts_with_number tag then (tag, win.slide_window_by 1) else (none, win)

/-- The words that no other branch is for: a tag, and a version behind it. -/
def add_rest (result : TokenizerResult) (curr : Text) : TokenizerResult :=
  let parts := split_once curr
  let tag := (trim_invalid_chars (parts.map (·.1))).getD curr
  let version := trim_invalid_chars (parts.map (·.2))
  let is (name : String) : Prop := tag = name.toList
  if is "Kindle" then result.add_possible_os_and_browser_tag "Kindle".toList version
  else if is "FxiOS" then result.add_possible_browser_tag "Firefox iOS".toList version
  else if is "EdgiOS" then
    result.mac_is_ios.add_possible_browser_tag "Edge Mobile".toList version
  else if is "CriOS" then
    let result := { result with ios_hint := true }
    result.mac_is_ios.add_possible_browser_tag "Chrome Mobile iOS".toList version
  else if is "GSA" then result.add_possible_browser_tag "Google".toList version
  else if is "YisouSpider" then result.add_possible_browser_tag "YisouSpider".toList version
  else if is "Edg" ∨ is "Edge" then result.add_tag "Edge".toList version
  else if is "OPR" then result.add_tag "Opera".toList version
  else if is "SamsungBrowser" then
    result.add_possible_browser_tag "Samsung Internet".toList version
  else if is "HuaweiBrowser" then
    let result := { result with huawei_hint := true }
    result.add_tag "HuaweiBrowser".toList version
  else if is "ChatGPT-User" then result.add_possible_browser_tag "ChatGPT-User".toList version
  else if is "OAI-SearchBot" then result.add_possible_browser_tag "OAI-SearchBot".toList version
  else if is "NX" then result.add_possible_browser_tag "NetFront NX".toList version
  else if is "Electron" then result.add_possible_browser_tag "Electron".toList version
  else if is "IEMobile" then result.add_possible_browser_tag "IE Mobile".toList version
  else if contains tag "Bot" || contains tag "bot" || contains tag "crawler" ||
      contains tag "Crawler" then result.add_possible_browser_tag_for_bot tag version
  else if is "Mobile" then
    let result := { result with mobile_hint := true }
    result.add_tag "Mobile".toList version
  else if is "Safari" then
    let result := { result with safari_hint := true }
    result.add_tag "Safari".toList version
  else if is "CFNetwork" then { result with cfnetwork_hint := true, ios_hint := true }
  else if contains tag "crawler" || version.any (contains · "crawler") then
    { result with crawler_hint := true }
  else if is "OculusBrowser" then
    result.add_possible_os_tag_override_existing "Android".toList none
  else result.add_tag tag version

/-- One turn of the loop of `Tokenizer::run`, which ends with a slide by one word but for a `like`,
a short word and an empty one. -/
def turn (win : WindowIter) (result : TokenizerResult) : WindowIter × TokenizerResult :=
  let word (i : Nat) := trim_invalid_chars win.window[i]?
  match word 0 with
  | none => (win.slide_window_by 1, result)
  | some curr =>
    let is (name : String) : Prop := curr = name.toList
    let next (i : Nat) (name : String) : Prop := word i = some name.toList
    let slide (win : WindowIter) (n : Nat) := (win.slide_window_by n).slide_window_by 1
    if starts_with curr "AppleTV" then (slide win 1, result.add_tag "ATV OS X".toList none)
    else if is "like" ∧ next 1 "Mac" ∧ next 2 "OS" then (slide win 3, result)
    else if is "Mac" ∧ next 1 "OS" ∧ next 2 "X" then
      let result := { result with macos_hint := true }
      let (version, win) := consume_if_numeric win (word 3)
      (slide win 2, result.add_possible_os_tag "Mac OS X".toList version)
    else if is "Mac" ∧ next 1 "OS" then
      let result := { result with macos_hint := true }
      let (version, win) := consume_if_numeric win (word 2)
      (slide win 2, result.add_possible_os_tag "Mac OS X".toList version)
    else if is "iOS" then
      let (version, win) := consume_if_numeric win (word 1)
      (slide win 1, { result.add_possible_os_tag "iOS".toList version with ios_hint := true })
    else if is "iPhone" ∧ next 1 "OS" then
      let (version, win) := consume_if_numeric win (word 2)
      (slide win 1, result.add_possible_os_tag "iOS".toList version)
    else if is "iPadOS" then
      let (version, win) := consume_if_numeric win (word 1)
      (slide win 1, { result.add_possible_os_tag "iOS".toList version with ios_hint := true })
    else if starts_with curr "iPad" then
      let result := { result with ios_hint := true }
      (slide win 0,
        result.add_tag "iPad".toList (trim_invalid_chars (some (second_part curr "iPad"))))
    else if starts_with curr "iPhone" then
      let result := { result with ios_hint := true }
      (slide win 0,
        result.add_tag "iPhone".toList (trim_invalid_chars (some (second_part curr "iPhone"))))
    else if starts_with curr "Apple-iPhone7C2" then
      let result := { result with ios_hint := true }
      (slide win 0, result.add_tag "iPhone".toList none)
    else if is "CPU" ∧ next 1 "OS" then
      let (version, win) := consume_if_numeric win (word 2)
      (slide win 1, result.add_tag "CPU OS".toList version)
    else if is "CrOS" then
      let (version, win) := consume_if_numeric win (word 1)
      let (version, win) := match version with
        | some version => (some version, win)
        | none => consume_if_numeric (win.slide_window_by 1) (word 2)
      (slide win 0, result.add_possible_os_tag "Chrome OS".toList version)
    else if is "CrKey" then (slide win 0, result.add_possible_os_tag "Chromecast".toList none)
    else if is "PlayStation" then
      let result := { result with playstation_hint := true }
      (slide win 0, result.add_tag "PlayStation".toList none)
    else if is "Android" then
      let (version, win) := consume_if_numeric win (word 1)
      (slide win 0, result.add_possible_os_tag "Android".toList version)
    else if is "Windows" ∧ next 1 "Phone" then
      let (version, win) := consume_if_numeric win (word 2)
      (slide win 1, result.add_possible_os_tag "Windows Phone".toList version)
    else if starts_with curr "Windows" then
      let result := { result with windows_hint := true }
      let (version, win) :=
        if next 1 "NT" then
          let (version, win) := consume_if_numeric win (word 2)
          -- the word before the version goes too
          (version, if version.isSome then win.slide_window_by 1 else win)
        else if (word 1).any (starts_with · "XP") then
          (some "XP".toList, win.slide_window_by 1)
        else consume_if_numeric win (word 1)
      (slide win 0, result.add_possible_os_tag "Windows".toList version)
    else if is "MSIE" then
      let (version, win) := consume_if_numeric win (word 1)
      (slide win 0, result.add_possible_browser_tag "IE".toList version)
    else if is "Yahoo!" ∧ next 1 "Slurp" then
      (slide win 1, result.add_tag "Yahoo! Slurp".toList none)
    else if is "Red" ∧ next 1 "Hat" then
      (slide win 1, result.add_possible_os_tag "Red Hat".toList none)
    else if is "Ubuntu" then
      let (version, win) := consume_if_numeric win (word 1)
      (slide win 0, result.add_possible_os_tag "Ubuntu".toList version)
    else if is "Mobile" then
      let result := { result with mobile_hint := true }
      (slide win 0, result.add_tag "Mobile".toList none)
    else if is "Linux" ∨ is "linux" then
      let result := { result with linux_hint := true }
      (slide win 0, result.add_tag "Linux".toList none)
    else if is "Nintendo" ∧ next 1 "3DS" then
      (slide win 1, result.add_tag "NetFront NX".toList none)
    else if is "like" ∨ len curr ≤ 2 then (win.slide_window_by 1, result)
    else if is "Better" ∧ next 1 "Uptime" ∧ next 2 "Bot" then
      (slide win 0, result.add_possible_browser_tag_for_bot "Better Uptime Bot".toList none)
    else if is "Radius" ∧ next 1 "Compilance" ∧ next 2 "Bot" then
      (slide win 0, result.add_possible_browser_tag_for_bot "Radius Compilance Bot".toList none)
    else if is "AdsBot-Google-Mobile" then
      (slide win 0, result.add_possible_browser_tag_for_bot "AdsBot-Google".toList none)
    else if is "Uptime" ∧ next 1 "Monitoring" ∧ next 2 "Bot" then
      (slide win 0, result.add_possible_browser_tag_for_bot "Uptime Monitoring Bot".toList none)
    else (slide win 0, add_rest result curr)

/-- The loop, for so many turns. -/
def run_for : Nat → WindowIter → TokenizerResult → WindowIter × TokenizerResult
  | 0, win, result => (win, result)
  | turns + 1, win, result =>
    if win.is_empty then (win, result)
    else
      let (win, result) := turn win result
      run_for turns win result

/-- `Tokenizer::run`. A turn takes a word at least, so there are no more turns than words. -/
def run (input : Text) : TokenizerResult := (run_for (words input).length (.new input) {}).2

end statsig_rust.evaluation.user_agent_parsing
