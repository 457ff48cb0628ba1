/-
**The paging arguments and navigation hints of the message commands.**

`atomd message list` and `atomd message subscriptions` read the arguments after the three words
of the command, `os.Args[3:]`, with the same loop.  `--page`/`-p` and `--page-size`/`-s` take
the next argument as their value when `fmt.Sscanf(next, "%d", &v)` reads one integer from it,
and skip it; a flag without a readable value is skipped alone, and the argument after it is read
as an argument of its own; the first argument that starts with neither `--` nor `-` is the
tenant, and every other one is ignored.  The defaults are page 1 and 20 a page.  When the
daemon's answer has more than one page, both commands print the command lines of the previous
and of the next page.

`fmt.Sscanf` belongs to the standard library and enters as a parameter `scan`: `scan next` is
the value `Sscanf` stores when it reads one item without error, and `none` when it fails, in
which case it stores nothing.  The statements about printed command lines take what a shell does
with a line of plain characters (`shellPlain`: letters, digits and `-_./:@+,%`) and blanks: its
words are the maximal runs between blanks (`shellWords`).  The hints print the tenant without
quotes, so they are stated for tenants of plain characters; a tenant with a blank, a quote or
another character the shell treats specially is not read back as one word.

Main definitions:

* `AtomEngine.parsePagingArgs` — the argument loop shared by `MessageList` and
  `MessageSubscriptions`;
* `AtomEngine.listRequest` — the list request both commands send;
* `AtomEngine.navigationHints` — the navigation block both commands print.

Main results:

* `AtomEngine.parsePagingArgs_append` — the loop reads a command line piece by piece, cut before
  any argument `scan` does not read;
* `AtomEngine.parsePagingArgs_last_page_flag` — a readable `--page` flag at the end sets the
  page and nothing else;
* `AtomEngine.navigation_hints_parse_back` — the printed previous and next page commands, run as
  printed, read back the tenant, the page size and the page they announce.
-/

import Mathlib.Data.List.Basic
import Mathlib.Tactic.IntervalCases
import AtomEngine.Utils.RandomString

set_option autoImplicit false

namespace AtomEngine

/-- `strings.HasPrefix(s, prefix)`, over the characters of the two strings. -/
def hasPrefix (s pre : String) : Bool := pre.data.isPrefixOf s.data

/-- An `int32` value. -/
def IsInt32 (x : Int) : Prop := -2 ^ 31 ≤ x ∧ x < 2 ^ 31

instance (x : Int) : Decidable (IsInt32 x) := inferInstanceAs (Decidable (_ ∧ _))

/-- The value of an `int32` expression whose mathematical value is `x`. -/
def goInt32 (x : Int) : Int := (x + 2 ^ 31) % 2 ^ 32 - 2 ^ 31

theorem goInt32_of_isInt32 {x : Int} (h : IsInt32 x) : goInt32 x = x := by
  unfold goInt32; unfold IsInt32 at h
  rw [Int.emod_eq_of_lt (by omega) (by omega)]; omega

/-- The values the argument loop of the message commands reads, with their defaults. -/
structure PagingArgs where
  tenantID : String := ""
  pageSize : Int := 20
  page : Int := 1
  deriving DecidableEq, Repr

/-- An argument that is no flag: the first one becomes the tenant. -/
def PagingArgs.positional (acc : PagingArgs) (arg : String) : PagingArgs :=
  if !hasPrefix arg "--" && !hasPrefix arg "-" then
    if acc.tenantID = "" then { acc with tenantID := arg } else acc
  else acc

/-- The argument loop of `MessageList` and `MessageSubscriptions`.  `scan next` is the value
`fmt.Sscanf(next, "%d", &v)` stores when it reads one item without error. -/
def parsePagingArgs (scan : String → Option Int) (acc : PagingArgs) : List String → PagingArgs
  | [] => acc
  | [arg] => acc.positional arg
  | arg :: rest@(next :: rest') =>
      if arg = "--page" ∨ arg = "-p" then
        match scan next with
        | some page => parsePagingArgs scan { acc with page } rest'
        | none => parsePagingArgs scan acc rest
      else if arg = "--page-size" ∨ arg = "-s" then
        match scan next with
        | some pageSize => parsePagingArgs scan { acc with pageSize } rest'
        | none => parsePagingArgs scan acc rest
      else parsePagingArgs scan (acc.positional arg) rest

/-- The argument loop of `DaemonCommand.MessageList`, over `os.Args[3:]`. -/
def DaemonCommand.messageListArgs (scan : String → Option Int) (args : List String) :
    PagingArgs :=
  parsePagingArgs scan {} args

/-- The argument loop of `DaemonCommand.MessageSubscriptions`, over `os.Args[3:]`. -/
def DaemonCommand.messageSubscriptionsArgs (scan : String → Option Int) (args : List String) :
    PagingArgs :=
  parsePagingArgs scan {} args

/-- The fields of `ListBufferedMessagesRequest` and `ListMessageSubscriptionsRequest`. -/
structure ListRequest where
  tenantId : String
  limit : Int
  pageSize : Int
  page : Int
  sortBy : String
  sortOrder : String
  deriving DecidableEq, Repr

/-- The list request a command sends: no limit, the paging it read, newest first. -/
def listRequest (sortBy : String) (a : PagingArgs) : ListRequest :=
  ⟨a.tenantID, 0, a.pageSize, a.page, sortBy, "DESC"⟩

/-- The request of `MessageList`. -/
def DaemonCommand.messageListRequest (scan : String → Option Int) (args : List String) :
    ListRequest :=
  listRequest "published_at" (DaemonCommand.messageListArgs scan args)

/-- The request of `MessageSubscriptions`. -/
def DaemonCommand.messageSubscriptionsRequest (scan : String → Option Int) (args : List String) :
    ListRequest :=
  listRequest "created_at" (DaemonCommand.messageSubscriptionsArgs scan args)

theorem positional_of_hasPrefix {acc : PagingArgs} {arg : String} (h : hasPrefix arg "-" = true) :
    acc.positional arg = acc := by
  simp [PagingArgs.positional, h]

theorem hasPrefix_flag {arg : String}
    (h : arg = "--page" ∨ arg = "-p" ∨ arg = "--page-size" ∨ arg = "-s") :
    hasPrefix arg "-" = true := by
  rcases h with rfl | rfl | rfl | rfl <;> rfl

/-- The loop reads a command line piece by piece, cut before any argument `scan` does not
read. -/
theorem parsePagingArgs_append (scan : String → Option Int) {next : String}
    (hnext : scan next = none) (more : List String) (acc : PagingArgs) (args : List String) :
    parsePagingArgs scan acc (args ++ next :: more) =
      parsePagingArgs scan (parsePagingArgs scan acc args) (next :: more) := by
  induction acc, args using parsePagingArgs.induct scan with
  | case1 => simp only [List.nil_append, parsePagingArgs]
  | case2 acc arg =>
    by_cases hflag : arg = "--page" ∨ arg = "-p" ∨ arg = "--page-size" ∨ arg = "-s"
    · rw [parsePagingArgs, positional_of_hasPrefix (hasPrefix_flag hflag)]
      rcases hflag with h | h | h | h <;> simp [parsePagingArgs, h, hnext]
    · simp only [not_or] at hflag
      simp [parsePagingArgs, hflag]
  | case3 acc arg next' rest' h page hs ih => simp [parsePagingArgs, h, hs, ih]
  | case4 acc arg next' rest' h hs ih => simp [parsePagingArgs, h, hs, ← ih]
  | case5 acc arg next' rest' h h' page hs ih => simp [parsePagingArgs, h, h', hs, ih]
  | case6 acc arg next' rest' h h' hs ih => simp [parsePagingArgs, h, h', hs, ← ih]
  | case7 acc arg next' rest' h h' ih => simp [parsePagingArgs, h, h', ← ih]

/-- A `--page` flag with a readable value at the end of the command line sets the page, and
leaves what the arguments before it set: the last readable page flag wins. -/
theorem parsePagingArgs_last_page_flag (scan : String → Option Int) (hflag : scan "--page" = none)
    {value : String} {page : Int} (hvalue : scan value = some page) (acc : PagingArgs)
    (args : List String) :
    parsePagingArgs scan acc (args ++ ["--page", value]) =
      { parsePagingArgs scan acc args with page } := by
  rw [parsePagingArgs_append scan hflag]
  simp [parsePagingArgs, hvalue]

/-- A scanner that reads the one number `7`. -/
def sevenScan (s : String) : Option Int := if s = "7" then some 7 else none

theorem parsePagingArgs_last_page_flag_after_size_flag :
    sevenScan "--page" = none ∧ sevenScan "7" = some 7 ∧
      parsePagingArgs sevenScan {} (["acme", "-s"] ++ ["--page", "7"]) =
        { parsePagingArgs sevenScan {} ["acme", "-s"] with page := 7 } :=
  ⟨by decide, by decide,
    parsePagingArgs_last_page_flag sevenScan (by decide) (by decide) {} ["acme", "-s"]⟩

/-! ### Navigation hints -/

/-- The paging fields of the daemon's answer, each an `int32`. -/
structure PageInfo where
  page : Int
  pageSize : Int
  totalPages : Int
  page_int32 : IsInt32 page
  pageSize_int32 : IsInt32 pageSize
  totalPages_int32 : IsInt32 totalPages

/-- A navigation hint: the command, the tenant when there is one, and
`fmt.Sprintf(" --page %d --page-size %d", page, pageSize)`. -/
def hintCommand (command tenantID : String) (page pageSize : Int) : String :=
  command ++ (if tenantID ≠ "" then " " ++ tenantID else "") ++ " --page " ++ toString page ++
    " --page-size " ++ toString pageSize

/-- The command line printed after `Previous page: `. -/
def previousPageCommand (command tenantID : String) (resp : PageInfo) : String :=
  hintCommand command tenantID (goInt32 (resp.page - 1)) resp.pageSize

/-- The command line printed after `Next page: `. -/
def nextPageCommand (command tenantID : String) (resp : PageInfo) : String :=
  hintCommand command tenantID (goInt32 (resp.page + 1)) resp.pageSize

/-- The navigation block printed after the table, line by line. -/
def navigationHints (command tenantID : String) (resp : PageInfo) : List String :=
  if resp.totalPages > 1 then
    ["", "Navigation:"] ++
      (if resp.page > 1 then ["Previous page: " ++ previousPageCommand command tenantID resp]
        else []) ++
      (if resp.page < resp.totalPages then ["Next page: " ++ nextPageCommand command tenantID resp]
        else [])
  else []

/-- A blank of the shell: the characters that separate the words of a command line. -/
def shellBlank (c : Char) : Bool := c == ' ' || c == '\t'

/-- A character the shell reads as itself outside quotes: an ASCII letter or digit, or one of
`-_./:@+,%`.  Quotes, backslashes, `$`, glob characters, `~`, `#`, `;`, `&`, `|`, redirections
and parentheses are not. -/
def shellPlain (c : Char) : Bool := c.isAlphanum || "-_./:@+,%".data.contains c

/-- Modelled from the shell: a command line of plain characters (`shellPlain`) and blanks
(`shellBlank`) is read as its maximal runs of characters between blanks. -/
def shellWords (line : String) : List String :=
  ((line.data.splitOnP shellBlank).filter (fun w => !w.isEmpty)).map String.mk

/-- A word of a command line: a nonempty run of characters none of which is a blank. -/
def IsShellWord (w : List Char) : Prop := w ≠ [] ∧ ∀ c ∈ w, shellBlank c = false

instance : DecidablePred IsShellWord := fun _ => inferInstanceAs (Decidable (_ ∧ _))

theorem splitOnP_append_cons {α : Type} (p : α → Bool) {sep : α} (hsep : p sep = true)
    (xs ys : List α) : (xs ++ sep :: ys).splitOnP p = xs.splitOnP p ++ ys.splitOnP p := by
  induction xs with
  | nil => simp [hsep]
  | cons x xs ih =>
    by_cases hx : p x = true
    · simp [hx, ih]
    · obtain ⟨w, ws, hw⟩ := List.exists_cons_of_ne_nil (List.splitOnP_ne_nil p xs)
      simp [hx, ih, hw]

theorem shellBlank_eq_false_of_shellPlain {c : Char} (h : shellPlain c = true) :
    shellBlank c = false := by
  cases hb : shellBlank c
  · rfl
  · simp only [shellBlank, Bool.or_eq_true, beq_iff_eq] at hb
    rcases hb with rfl | rfl <;> exact absurd h (by decide)

theorem shellBlank_digitChar {d : ℕ} (h : d < 10) : shellBlank (Nat.digitChar d) = false := by
  interval_cases d <;> rfl

theorem shellBlank_toDigitsCore :
    ∀ (fuel n : ℕ) (ds : List Char), (∀ c ∈ ds, shellBlank c = false) →
      ∀ c ∈ Nat.toDigitsCore 10 fuel n ds, shellBlank c = false
  | 0, _, _, h => h
  | fuel + 1, n, ds, h => by
    have hd : ∀ c ∈ Nat.digitChar (n % 10) :: ds, shellBlank c = false :=
      List.forall_mem_cons.mpr ⟨shellBlank_digitChar (Nat.mod_lt n (by norm_num)), h⟩
    simp only [Nat.toDigitsCore]
    split
    · exact hd
    · exact shellBlank_toDigitsCore fuel _ _ hd

/-- The decimal digits of a natural number are one word. -/
theorem isShellWord_toDigits (m : ℕ) : IsShellWord (Nat.toDigits 10 m) :=
  ⟨toDigitsCore_ne_nil 10 m m [], shellBlank_toDigitsCore _ _ [] (List.forall_mem_nil _)⟩

/-- The decimal text of an integer is one word. -/
theorem isShellWord_toString (n : Int) : IsShellWord (toString n).data := by
  cases n with
  | ofNat m => exact isShellWord_toDigits m
  | negSucc m =>
    show IsShellWord ('-' :: Nat.toDigits 10 (m + 1))
    exact ⟨List.cons_ne_nil _ _, List.forall_mem_cons.mpr ⟨rfl, (isShellWord_toDigits _).2⟩⟩

/-- A nonempty text of plain characters is one word. -/
theorem isShellWord_of_shellPlain {w : String} (hw : ∀ c ∈ w.data, shellPlain c = true)
    (hne : w ≠ "") : IsShellWord w.data :=
  ⟨fun h => hne (String.ext h), fun c hc => shellBlank_eq_false_of_shellPlain (hw c hc)⟩

theorem shellWords_append_space (a b : String) :
    shellWords (a ++ " " ++ b) = shellWords a ++ shellWords b := by
  simp only [shellWords, String.data_append, List.append_assoc, List.singleton_append,
    splitOnP_append_cons shellBlank (show shellBlank ' ' = true from rfl), List.filter_append,
    List.map_append]

theorem shellWords_word {w : String} (hw : IsShellWord w.data) : shellWords w = [w] := by
  have hsingle : w.data.splitOnP shellBlank = [w.data] :=
    List.splitOnP_eq_single _ _ fun c hc => by simp [hw.2 c hc]
  simp [shellWords, hsingle, List.isEmpty_iff, hw.1]

/-- The words of a navigation hint: those of the command, the tenant when there is one, and the
two flags with their values. -/
theorem shellWords_hintCommand (command : String) {tenantID : String}
    (ht : ∀ c ∈ tenantID.data, shellPlain c = true) (page pageSize : Int) :
    shellWords (hintCommand command tenantID page pageSize) =
      shellWords command ++ (if tenantID ≠ "" then [tenantID] else []) ++
        ["--page", toString page, "--page-size", toString pageSize] := by
  have hline : hintCommand command tenantID page pageSize =
      (command ++ if tenantID ≠ "" then " " ++ tenantID else "") ++ " " ++
        ("--page" ++ " " ++
          (toString page ++ " " ++ ("--page-size" ++ " " ++ toString pageSize))) := by
    simp only [hintCommand, String.append_assoc]; rfl
  rw [hline]
  simp only [shellWords_append_space, shellWords_word (isShellWord_toString _),
    shellWords_word (show IsShellWord "--page".data by decide),
    shellWords_word (show IsShellWord "--page-size".data by decide)]
  split
  · rename_i hne
    rw [← String.append_assoc, shellWords_append_space,
      shellWords_word (isShellWord_of_shellPlain ht hne)]; simp
  · simp [String.append_empty]

theorem hasPrefix_dash_of_dashes {arg : String} (h : hasPrefix arg "--" = true) :
    hasPrefix arg "-" = true := by
  unfold hasPrefix at *
  rw [List.isPrefixOf_iff_prefix] at *
  exact (show "-".data <+: "--".data from ⟨['-'], rfl⟩).trans h

theorem ne_flag_of_hasPrefix {arg : String} (h : hasPrefix arg "-" = false) :
    ¬(arg = "--page" ∨ arg = "-p") ∧ ¬(arg = "--page-size" ∨ arg = "-s") := by
  constructor <;> intro hf <;> rcases hf with rfl | rfl <;> simp [hasPrefix] at h

/-- The arguments of a navigation hint give back its tenant, page and page size. -/
theorem parsePagingArgs_hint_args (scan : String → Option Int) {tenantID : String}
    (hflag : hasPrefix tenantID "-" = false) {page pageSize : Int}
    (hpage : scan (toString page) = some page) (hsize : scan (toString pageSize) = some pageSize) :
    parsePagingArgs scan {} ((if tenantID ≠ "" then [tenantID] else []) ++
      ["--page", toString page, "--page-size", toString pageSize]) =
      ⟨tenantID, pageSize, page⟩ := by
  have hflags := ne_flag_of_hasPrefix hflag
  by_cases h : tenantID = ""
  · simp [h, parsePagingArgs, hpage, hsize]
  · have hdashes : hasPrefix tenantID "--" = false := by
      cases hd : hasPrefix tenantID "--"
      · rfl
      · simp [hasPrefix_dash_of_dashes hd] at hflag
    simp [h, parsePagingArgs, hpage, hsize, hflags, PagingArgs.positional, hflag, hdashes]

/-- The previous and the next page's command lines, run as printed, read back the tenant, the
page size and the page they announce. -/
theorem navigation_hints_parse_back (scan : String → Option Int) {command tenantID : String}
    (hcommand : command = "atomd message list" ∨ command = "atomd message subscriptions")
    (hplain : ∀ c ∈ tenantID.data, shellPlain c = true)
    (hflag : hasPrefix tenantID "-" = false) (resp : PageInfo)
    (hsize : scan (toString resp.pageSize) = some resp.pageSize) :
    (1 < resp.page → scan (toString (resp.page - 1)) = some (resp.page - 1) →
      parsePagingArgs scan {} ((shellWords (previousPageCommand command tenantID resp)).drop 3) =
        ⟨tenantID, resp.pageSize, resp.page - 1⟩) ∧
    (resp.page < resp.totalPages → scan (toString (resp.page + 1)) = some (resp.page + 1) →
      parsePagingArgs scan {} ((shellWords (nextPageCommand command tenantID resp)).drop 3) =
        ⟨tenantID, resp.pageSize, resp.page + 1⟩) := by
  have hdrop : ∀ page, (shellWords (hintCommand command tenantID page resp.pageSize)).drop 3 =
      (if tenantID ≠ "" then [tenantID] else []) ++
        ["--page", toString page, "--page-size", toString resp.pageSize] := by
    intro page
    have hthree : (shellWords command).length = 3 := by rcases hcommand with rfl | rfl <;> rfl
    rw [shellWords_hintCommand command hplain, List.append_assoc, List.drop_left' hthree]
  have hp := resp.page_int32
  have ht := resp.totalPages_int32
  unfold IsInt32 at hp ht
  constructor
  · intro hgt hscan
    rw [previousPageCommand, goInt32_of_isInt32 ⟨by omega, by omega⟩, hdrop,
      parsePagingArgs_hint_args scan hflag hscan hsize]
  · intro hlt hscan
    rw [nextPageCommand, goInt32_of_isInt32 ⟨by omega, by omega⟩, hdrop,
      parsePagingArgs_hint_args scan hflag hscan hsize]

/-- A page in the middle of three, with fifty messages a page. -/
def middlePage : PageInfo := ⟨2, 50, 3, by decide, by decide, by decide⟩

/-- A scanner that reads the numbers the middle page's hints print. -/
def middlePageScan (s : String) : Option Int := [("1", 1), ("3", 3), ("50", 50)].lookup s

theorem navigation_hints_parse_back_middle_page :
    (("atomd message list" = "atomd message list" ∨
        "atomd message list" = "atomd message subscriptions") ∧
      (∀ c ∈ "acme-eu.prod".data, shellPlain c = true) ∧
      hasPrefix "acme-eu.prod" "-" = false ∧
      middlePageScan (toString middlePage.pageSize) = some middlePage.pageSize) ∧
    ((1 < middlePage.page →
      middlePageScan (toString (middlePage.page - 1)) = some (middlePage.page - 1) →
      parsePagingArgs middlePageScan {}
          ((shellWords
            (previousPageCommand "atomd message list" "acme-eu.prod" middlePage)).drop 3) =
        ⟨"acme-eu.prod", middlePage.pageSize, middlePage.page - 1⟩) ∧
    (middlePage.page < middlePage.totalPages →
      middlePageScan (toString (middlePage.page + 1)) = some (middlePage.page + 1) →
      parsePagingArgs middlePageScan {}
          ((shellWords
            (nextPageCommand "atomd message list" "acme-eu.prod" middlePage)).drop 3) =
        ⟨"acme-eu.prod", middlePage.pageSize, middlePage.page + 1⟩)) :=
  ⟨⟨.inl rfl, by decide, by decide, by decide⟩,
    navigation_hints_parse_back middlePageScan (.inl rfl) (by decide) (by decide) middlePage
      (by decide)⟩

end AtomEngine
