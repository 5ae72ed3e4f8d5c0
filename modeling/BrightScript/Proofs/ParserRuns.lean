import BrightScript.Tree.Cursor
import BrightScript.Proofs.Agreement
set_option autoImplicit false

/-!
Two runs of the parser side by side. One reads some tokens to their end; the other reads the same
tokens with more behind them, or with other faults noted before, or with other bounds on its depth.
As long as neither has passed the line end that closes the shared part, they do the same.
-/

namespace BrightScript

def Lexeme.isSimple : Lexeme → Bool
  | .newline | .eof | .word .library | .symbol .leftSquare | .symbol .leftBrace => false
  | .word .if_ | .word .for_ | .word .forEach | .word .while_ | .word .try_ => false
  | .word .function | .word .sub => false
  | _ => true

namespace Parser

variable {α β : Type}

def Cursor.next (c : Cursor) : Token :=
  c.rest.headD c.finish

def Cursor.nextKind (c : Cursor) : Lexeme :=
  c.next.kind

theorem bind_run (x : Parse α) (k : α → Parse β) (c : Cursor) :
    (x >>= k) c = match x c with
      | .ok a next => k a next
      | .error e next => .error e next := by
  change EStateM.bind x k c = _
  unfold EStateM.bind
  cases x c <;> rfl

structure Onward (c next : Cursor) : Prop where
  reads : ∃ consumed, c.rest = consumed ++ next.rest ∧ next.previous = consumed.getLastD c.previous
  finish : next.finish = c.finish
  errors : c.errors <+: next.errors

theorem Onward.refl (c : Cursor) : Onward c c :=
  ⟨⟨[], rfl, rfl⟩, rfl, List.prefix_refl _⟩

theorem Onward.trans {c middle next : Cursor} (first : Onward c middle)
    (second : Onward middle next) : Onward c next := by
  obtain ⟨⟨consumed, read, last⟩, finish, errors⟩ := first
  obtain ⟨⟨more, readMore, lastMore⟩, finishMore, errorsMore⟩ := second
  refine ⟨⟨consumed ++ more, ?_, ?_⟩, finishMore.trans finish, errors.trans errorsMore⟩
  · rw [read, readMore, List.append_assoc]
  · rw [lastMore, last]
    simp only [List.getLastD_eq_getLast?, List.getLast?_append]
    cases more.getLast? <;> simp

theorem Onward.shorter {c next : Cursor} (onward : Onward c next) :
    next.rest.length ≤ c.rest.length := by
  obtain ⟨consumed, read, _⟩ := onward.reads
  rw [read, List.length_append]
  omega

theorem Onward.exhausted {c next : Cursor} (onward : Onward c next) (done : c.rest = []) :
    next.rest = [] := by
  have shorter := onward.shorter
  rw [done] at shorter
  exact List.eq_nil_of_length_eq_zero (Nat.le_zero.1 shorter)

theorem next_of_kind {c : Cursor} (ends : c.finish.kind = .eof) (more : c.nextKind ≠ .eof) :
    ∃ rest, c.rest = c.next :: rest := by
  cases shape : c.rest with
  | nil => exact absurd (by simp [Cursor.nextKind, Cursor.next, shape, ends]) more
  | cons token rest => exact ⟨rest, by simp [Cursor.next, shape]⟩

-- How the shared part is bounded: by the end of both runs, or by a line end, and then perhaps as
-- the end of a single simple line.
inductive Extent where
  | whole
  | lines
  | line

structure Fork where
  extent : Extent
  tail : List Token
  finish : Token
  twinFinish : Token
  errors : List ParseError
  twinErrors : List ParseError
  ends : finish.kind = .eof

def Fork.Admits (f : Fork) (shared : List Token) : Prop :=
  match f.extent with
  | .whole => f.tail = [] ∧ f.twinFinish = f.finish
  | .lines => ∃ lines feed, shared = lines ++ [feed] ∧ feed.kind = .newline
  | .line => ∃ line feed, shared = line ++ [feed] ∧ feed.kind = .newline ∧
      ∀ token ∈ line, token.kind.isSimple = true

def Abreast (f : Fork) (c twin : Cursor) : Prop :=
  ∃ shared previous noted, f.Admits shared ∧
    c = ⟨shared, previous, f.finish, f.errors ++ noted⟩ ∧
    twin = ⟨shared ++ f.tail, previous, f.twinFinish, f.twinErrors ++ noted⟩

-- Two runs have come to the same, or the first has passed the last shared line.
inductive Meets (f : Fork) : EStateM.Result ParseError Cursor α →
    EStateM.Result ParseError Cursor α → Prop
  | ok {a : α} {c twin : Cursor} (abreast : Abreast f c twin) : Meets f (.ok a c) (.ok a twin)
  | error {e : ParseError} {c twin : Cursor} (abreast : Abreast f c twin) :
      Meets f (.error e c) (.error e twin)
  | spilled {r other : EStateM.Result ParseError Cursor α} (lines : f.extent = .lines)
      (passed : (finalState r).rest = []) : Meets f r other

section

variable {f : Fork} {c twin : Cursor}

theorem Abreast.ends (abreast : Abreast f c twin) : c.finish.kind = .eof := by
  obtain ⟨shared, previous, noted, _, rfl, _⟩ := abreast
  exact f.ends

theorem Abreast.previous (abreast : Abreast f c twin) : twin.previous = c.previous := by
  obtain ⟨shared, previous, noted, _, rfl, rfl⟩ := abreast
  rfl

theorem Fork.Admits.next {shared : List Token} (admits : f.Admits shared) :
    (shared ++ f.tail).headD f.twinFinish = shared.headD f.finish := by
  cases extent : f.extent <;> simp only [Fork.Admits, extent] at admits
  case whole =>
    rw [admits.1, admits.2, List.append_nil]
  case lines =>
    obtain ⟨lines, feed, rfl, _⟩ := admits
    cases lines <;> rfl
  case line =>
    obtain ⟨line, feed, rfl, _⟩ := admits
    cases line <;> rfl

theorem Abreast.next (abreast : Abreast f c twin) : twin.next = c.next := by
  obtain ⟨shared, previous, noted, admits, rfl, rfl⟩ := abreast
  exact admits.next

theorem Abreast.next_kind (abreast : Abreast f c twin) : twin.nextKind = c.nextKind :=
  congrArg Token.kind abreast.next

theorem Fork.Admits.drop {token : Token} {shared : List Token} (admits : f.Admits (token :: shared))
    (inside : f.extent = .line → token.kind ≠ .newline) :
    f.Admits shared ∨ f.extent = .lines ∧ shared = [] ∧ token.kind = .newline := by
  cases extent : f.extent <;> simp only [Fork.Admits, extent] at admits ⊢
  case whole => exact .inl admits
  case lines =>
    obtain ⟨lines, feed, shape, isFeed⟩ := admits
    cases lines with
    | nil =>
      obtain ⟨rfl, rfl⟩ := List.cons.inj shape
      exact .inr ⟨trivial, rfl, isFeed⟩
    | cons head lines =>
      obtain ⟨rfl, rfl⟩ := List.cons.inj shape
      exact .inl ⟨lines, feed, rfl, isFeed⟩
  case line =>
    obtain ⟨line, feed, shape, isFeed, simple⟩ := admits
    cases line with
    | nil =>
      obtain ⟨rfl, rfl⟩ := List.cons.inj shape
      exact absurd isFeed (inside extent)
    | cons head line =>
      obtain ⟨rfl, rfl⟩ := List.cons.inj shape
      exact .inl ⟨line, feed, rfl, isFeed, fun token member => simple token (.tail _ member)⟩

theorem Abreast.simple (abreast : Abreast f c twin) (inLine : f.extent = .line) :
    c.nextKind.isSimple = true ∨ c.nextKind = .newline := by
  obtain ⟨shared, previous, noted, admits, rfl, _⟩ := abreast
  simp only [Fork.Admits, inLine] at admits
  obtain ⟨line, feed, rfl, isFeed, simple⟩ := admits
  cases line with
  | nil => exact .inr isFeed
  | cons head line => exact .inl (simple head (.head line))

theorem Abreast.second (abreast : Abreast f c twin) (inside : c.nextKind ≠ .newline) :
    ((twin.rest.drop 1).headD twin.finish).kind = ((c.rest.drop 1).headD c.finish).kind := by
  obtain ⟨shared, previous, noted, admits, rfl, rfl⟩ := abreast
  cases shared with
  | nil =>
    cases extent : f.extent <;> simp only [Fork.Admits, extent] at admits
    case whole => simp [admits.1, admits.2]
    case lines => obtain ⟨lines, feed, shape, _⟩ := admits; simp at shape
    case line => obtain ⟨line, feed, shape, _⟩ := admits; simp at shape
  | cons token shared =>
    have isOther : token.kind ≠ .newline := inside
    obtain later | ⟨_, _, isFeed⟩ := admits.drop fun _ => isOther
    · exact congrArg Token.kind later.next
    · exact absurd isFeed isOther

end

theorem advance_run {c : Cursor} {token : Token} {rest : List Token}
    (shape : c.rest = token :: rest) :
    advance c = .ok token { c with rest := rest, previous := token } := by
  obtain ⟨_, previous, finish, errors⟩ := c
  subst shape
  rfl

theorem Fork.Admits.at_end {f : Fork} (admits : f.Admits []) : f.tail = [] := by
  cases extent : f.extent <;> simp only [Fork.Admits, extent] at admits
  case whole => exact admits.1
  case lines =>
    obtain ⟨lines, feed, shape, _⟩ := admits
    exact absurd shape (by simp)
  case line =>
    obtain ⟨line, feed, shape, _⟩ := admits
    exact absurd shape (by simp)

theorem advance_meets {f : Fork} {c twin : Cursor} (abreast : Abreast f c twin)
    (inside : f.extent = .line → c.nextKind ≠ .newline) : Meets f (advance c) (advance twin) := by
  obtain ⟨shared, previous, noted, admits, rfl, rfl⟩ := abreast
  cases shared with
  | nil =>
    simp only [admits.at_end, List.append_nil]
    exact .ok ⟨[], previous, noted, admits, rfl, by rw [admits.at_end, List.append_nil]⟩
  | cons token shared =>
    obtain later | ⟨lines, passed, _⟩ := admits.drop inside
    · exact .ok ⟨shared, token, noted, later, rfl, rfl⟩
    · exact .spilled lines passed

theorem advance_onward (c : Cursor) : Onward c (finalState (advance c)) := by
  obtain ⟨rest, previous, finish, errors⟩ := c
  cases rest with
  | nil => exact .refl _
  | cons token rest => exact ⟨⟨[token], rfl, rfl⟩, rfl, List.prefix_refl _⟩

theorem skip_while_cons (accepted : Lexeme → Bool) (token : Token) (rest : List Token)
    (previous finish : Token) (errors : List ParseError) :
    skipWhile accepted ⟨token :: rest, previous, finish, errors⟩ =
      if accepted token.kind = true then skipWhile accepted ⟨rest, token, finish, errors⟩
      else .ok () ⟨token :: rest, previous, finish, errors⟩ := by
  change EStateM.Result.ok () (Cursor.mk _ _ _ _) = ite _ (.ok () (Cursor.mk _ _ _ _)) _
  cases admitted : accepted token.kind with
  | true =>
    simp only [List.takeWhile_cons, admitted, if_true, List.getLastD_cons, List.length_cons,
      List.drop_succ_cons]
  | false =>
    simp only [List.takeWhile_cons, admitted]
    rfl

theorem skip_while_onward (accepted : Lexeme → Bool) (c : Cursor) :
    Onward c (finalState (skipWhile accepted c)) := by
  obtain ⟨rest, previous, finish, errors⟩ := c
  induction rest generalizing previous with
  | nil => exact .refl _
  | cons token rest ih =>
    rw [skip_while_cons]
    split
    · exact (advance_onward ⟨token :: rest, previous, finish, errors⟩).trans (ih token)
    · exact .refl _

theorem skip_while_meets (accepted : Lexeme → Bool) {f : Fork} {c twin : Cursor}
    (abreast : Abreast f c twin) (inLines : f.extent ≠ .line) :
    Meets f (skipWhile accepted c) (skipWhile accepted twin) := by
  obtain ⟨shared, previous, noted, admits, rfl, rfl⟩ := abreast
  induction shared generalizing previous with
  | nil =>
    refine .ok ⟨[], previous, noted, admits, rfl, ?_⟩
    simp [admits.at_end]
  | cons token shared ih =>
    rw [List.cons_append, skip_while_cons, skip_while_cons]
    split
    · obtain later | ⟨lines, passed, _⟩ := admits.drop fun isLine => absurd isLine inLines
      · exact ih token later
      · exact .spilled lines ((skip_while_onward accepted _).exhausted passed)
    · exact .ok ⟨token :: shared, previous, noted, admits, rfl, rfl⟩

def Cursor.note (c : Cursor) (e : ParseError) : Cursor :=
  { c with errors := c.errors ++ [e] }

@[simp]
theorem note_rest (c : Cursor) (e : ParseError) : (c.note e).rest = c.rest :=
  rfl

theorem onward_note (c : Cursor) (e : ParseError) : Onward c (c.note e) :=
  ⟨⟨[], rfl, rfl⟩, rfl, List.prefix_append _ _⟩

theorem Abreast.note {f : Fork} {c twin : Cursor} (abreast : Abreast f c twin) (e : ParseError) :
    Abreast f (c.note e) (twin.note e) := by
  obtain ⟨shared, previous, noted, admits, rfl, rfl⟩ := abreast
  exact ⟨shared, previous, noted ++ [e], admits, by simp [Cursor.note], by simp [Cursor.note]⟩

theorem advance_ok (c : Cursor) : ∃ token, advance c = .ok token (finalState (advance c)) := by
  obtain ⟨rest, previous, finish, errors⟩ := c
  cases rest with
  | nil => exact ⟨previous, rfl⟩
  | cons token rest => exact ⟨token, rfl⟩

theorem consume_run {kind : Lexeme} (what : String) {c : Cursor} (found : c.nextKind = kind) :
    consume kind what c = advance c := by
  change (if (c.nextKind == kind) = true then advance else failExpected what) c = _
  rw [found, beq_self_eq_true, if_pos rfl]

theorem synchronize_run (c : Cursor) :
    synchronize c = .ok ()
      (finalState (advance (finalState (skipWhile (fun kind => !isSeparator kind) c)))) := by
  obtain ⟨token, ran⟩ := advance_ok (finalState (skipWhile (fun kind => !isSeparator kind) c))
  change (advance >>= fun _ => pure ()) (finalState (skipWhile (fun kind => !isSeparator kind) c)) =
    _
  rw [bind_run, ran]
  rfl

theorem synchronize_onward (c : Cursor) : Onward c (finalState (synchronize c)) := by
  rw [synchronize_run]
  exact (skip_while_onward _ c).trans (advance_onward _)

theorem advance_shorter (c : Cursor) :
    (finalState (advance c)).rest.length ≤ c.rest.length - 1 := by
  obtain ⟨rest, previous, finish, errors⟩ := c
  cases rest with
  | nil => exact Nat.le_refl _
  | cons token rest => exact Nat.le_refl _

theorem synchronize_shorter (c : Cursor) :
    (finalState (synchronize c)).rest.length ≤ c.rest.length - 1 := by
  rw [synchronize_run]
  have skipped := (skip_while_onward (fun kind => !isSeparator kind) c).shorter
  exact Nat.le_trans (advance_shorter _) (Nat.sub_le_sub_right skipped 1)

theorem recover_run (step : Parse α) (c : Cursor) :
    recover step c = match step c with
      | .ok a next => .ok (some a) next
      | .error e next => .ok none (finalState (synchronize (next.note e))) := by
  unfold recover
  cases step c with
  | ok a next => rfl
  | error e next =>
    have synchronized := synchronize_run (next.note e)
    simp only [Cursor.note] at synchronized ⊢
    rw [synchronized]
    rfl

-- How far a run has come of a point with `limit` tokens to go: no less far, further, or further and
-- not right behind a line end.
inductive Phase where
  | opened
  | moved
  | settled

def Phase.rank : Phase → Nat
  | .opened => 0
  | .moved => 1
  | .settled => 2

def Phase.Holds (limit : Nat) (c : Cursor) : Phase → Prop
  | .opened => c.rest.length ≤ limit
  | .moved => c.rest.length < limit
  | .settled => c.rest.length < limit ∧ c.previous.kind ≠ .newline

theorem Phase.Holds.weaken {limit : Nat} {c : Cursor} {p q : Phase} (holds : p.Holds limit c)
    (weaker : q.rank ≤ p.rank) : q.Holds limit c := by
  cases p <;> cases q <;> simp [Phase.rank] at weaker <;> simp only [Phase.Holds] at holds ⊢
  all_goals first | exact holds | exact holds.1 | omega

theorem Phase.Holds.onward {limit : Nat} {c next : Cursor} {p : Phase} (holds : p.Holds limit c)
    (onward : Onward c next) : Phase.opened.Holds limit next := by
  have opened : c.rest.length ≤ limit := holds.weaken (q := .opened) (Nat.zero_le _)
  exact Nat.le_trans onward.shorter opened

-- The rules `x` and `y` do the same before fewer than `limit` shared tokens, where `ahead` is said
-- of the next token. A rule that does not hold in a line may pass line ends. What `x` returns, it
-- returns in phase `q` of a run that was in phase `p`.
structure Tandem (limit : Nat) (ahead : Lexeme → Prop) (p q : Phase) (inLine : Bool)
    (x y : Parse α) : Prop where
  onward : ∀ c, Onward c (finalState (x c))
  settles : ∀ total c a next, c.rest.length < limit → c.finish.kind = .eof → ahead c.nextKind →
    p.Holds total c → x c = .ok a next → q.Holds total next
  meets : ∀ (f : Fork) c twin, (f.extent = .line → inLine = true) → c.rest.length < limit →
    Abreast f c twin → ahead c.nextKind → Meets f (x c) (y twin)

def anything : Lexeme → Prop := fun _ => True

namespace Tandem

variable {limit : Nat} {ahead : Lexeme → Prop} {p q r : Phase} {inLine : Bool} {x y : Parse α}
  {k l : α → Parse β}

theorem mono {less : Nat} {narrower : Lexeme → Prop} (tandem : Tandem limit ahead p q inLine x y)
    (fewer : less ≤ limit) (narrow : ∀ kind, narrower kind → ahead kind) :
    Tandem less narrower p q inLine x y where
  onward := tandem.onward
  settles total c a next short ends fits :=
  tandem.settles total c a next (by omega) ends (narrow _ fits)
  meets f c twin covered short abreast fits :=
    tandem.meets f c twin covered (by omega) abreast (narrow _ fits)

theorem phases {early late : Phase} (tandem : Tandem limit ahead p q inLine x y)
    (earlier : p.rank ≤ early.rank) (later : late.rank ≤ q.rank) :
    Tandem limit ahead early late inLine x y where
  onward := tandem.onward
  settles total c a next short ends fits holds done :=
    (tandem.settles total c a next short ends fits (holds.weaken earlier) done).weaken later
  meets := tandem.meets

theorem across_lines (tandem : Tandem limit ahead p q true x y) :
    Tandem limit ahead p q inLine x y where
  onward := tandem.onward
  settles := tandem.settles
  meets f c twin _ := tandem.meets f c twin fun _ => rfl

theorem moved (tandem : Tandem limit ahead .opened .opened inLine x y) :
    Tandem limit ahead .moved .moved inLine x y where
  onward := tandem.onward
  settles total c a next short ends fits holds done := by
    have start : c.rest.length < total := holds
    have opened : next.rest.length ≤ total - 1 :=
      tandem.settles (total - 1) c a next short ends fits (Nat.le_sub_one_of_lt start) done
    change next.rest.length < total
    omega
  meets := tandem.meets

theorem loosen {less : Nat} (tandem : Tandem limit anything .opened q inLine x y)
    (fewer : less ≤ limit) : Tandem less ahead p q inLine x y :=
  (tandem.mono fewer fun _ _ => trivial).phases (Nat.zero_le _) (Nat.le_refl _)

theorem relax {less : Nat} (tandem : Tandem limit anything .opened q true x y)
    (fewer : less ≤ limit) : Tandem less ahead p q inLine x y :=
  (tandem.loosen fewer).across_lines

theorem barred (tandem : Tandem limit ahead p q false x y)
    (absent : ∀ kind, ahead kind → kind.isSimple = false ∧ kind ≠ .newline) :
    Tandem limit ahead p q inLine x y where
  onward := tandem.onward
  settles := tandem.settles
  meets f c twin _ short abreast fits := by
    refine tandem.meets f c twin (fun isLine => ?_) short abreast fits
    obtain ⟨notSimple, notFeed⟩ := absent _ fits
    obtain simple | isFeed := abreast.simple isLine
    · exact absurd simple (by simp [notSimple])
    · exact absurd isFeed notFeed

theorem vacuous (spent : limit ≤ 0) (onward : ∀ c, Onward c (finalState (x c))) :
    Tandem limit ahead p q inLine x y where
  onward := onward
  settles _ _ _ _ short := absurd (Nat.lt_of_lt_of_le short spent) (Nat.not_lt_zero _)
  meets _ _ _ _ short := absurd (Nat.lt_of_lt_of_le short spent) (Nat.not_lt_zero _)

theorem bounded {y : Nat → Parse α} {bound : Nat} (enough : limit ≤ bound)
    (step : ∀ less, limit - 1 ≤ less → Tandem limit ahead p q inLine x (y (less + 1))) :
    Tandem limit ahead p q inLine x (y bound) := by
  cases bound with
  | zero => exact .vacuous enough (step 0 (by omega)).onward
  | succ less => exact step less (by omega)

theorem barred_at {kind : Lexeme} (tandem : Tandem limit (· = kind) p q false x y)
    (absent : kind.isSimple = false ∧ kind ≠ .newline) : Tandem limit (· = kind) p q inLine x y :=
  tandem.barred fun _ same => same ▸ absent

theorem bind_within {less : Nat} (first : Tandem limit ahead p q inLine x y)
    (within : ∀ c a next, c.rest.length < limit → c.finish.kind = .eof → ahead c.nextKind →
      x c = .ok a next → next.rest.length < less)
    (rest : ∀ a, Tandem less anything q r inLine (k a) (l a)) :
    Tandem limit ahead p r inLine (x >>= k) (y >>= l) where
  onward c := by
    have onward := first.onward c
    rw [bind_run]
    cases ran : x c with
    | ok a next =>
      rw [ran] at onward
      exact onward.trans ((rest a).onward next)
    | error e next =>
      rw [ran] at onward
      exact onward
  settles total c b last short ends fits holds done := by
    have onward := first.onward c
    rw [bind_run] at done
    cases ran : x c with
    | error e next => simp [ran] at done
    | ok a next =>
      rw [ran] at onward done
      have reached := first.settles total c a next short ends fits holds ran
      exact (rest a).settles total next b last (within c a next short ends fits ran)
        (onward.finish ▸ ends) trivial reached done
  meets f c twin covered short abreast fits := by
    have met := first.meets f c twin covered short abreast fits
    rw [bind_run, bind_run]
    cases ran : x c with
    | error e next =>
      rw [ran] at met
      generalize y twin = other at met
      cases met with
      | error abreast => exact .error abreast
      | spilled lines passed => exact .spilled lines passed
    | ok a next =>
      rw [ran] at met
      have fewer := within c a next short abreast.ends fits ran
      generalize y twin = other at met
      cases met with
      | ok abreast => exact (rest a).meets f next _ covered fewer abreast trivial
      | spilled lines passed => exact .spilled lines (((rest a).onward next).exhausted passed)

theorem bind (first : Tandem limit ahead p q inLine x y)
    (rest : ∀ a, Tandem limit anything q r inLine (k a) (l a)) :
    Tandem limit ahead p r inLine (x >>= k) (y >>= l) := by
  refine first.bind_within (fun c a next short _ _ ran => ?_) rest
  have onward := first.onward c
  rw [ran] at onward
  exact Nat.lt_of_le_of_lt onward.shorter short

theorem and_then (first : Tandem limit ahead .opened q inLine x y) (moves : 1 ≤ q.rank)
    (rest : ∀ a, Tandem (limit - 1) anything q r inLine (k a) (l a)) :
    Tandem limit ahead p r inLine (x >>= k) (y >>= l) := by
  refine (first.phases (Nat.zero_le _) (Nat.le_refl _)).bind_within
    (fun c a next short ends fits ran => ?_) rest
  have moved : next.rest.length < c.rest.length :=
    (first.settles c.rest.length c a next short ends fits (Nat.le_refl _) ran).weaken
    (q := .moved) moves
  omega

protected theorem pure (a : α) : Tandem limit ahead p p inLine (pure a) (pure a) where
  onward c := .refl c
  settles total c b next _ _ _ holds done := by
    obtain ⟨rfl, rfl⟩ : a = b ∧ c = next := by
      injection done with same stays
      exact ⟨same, stays⟩
    exact holds
  meets _ _ _ _ _ abreast _ := .ok abreast

theorem fail_at (cause : ParseFault) (location : Location) :
    Tandem limit ahead p q inLine (Parser.failAt (α := α) cause location)
      (Parser.failAt cause location) where
  onward c := .refl c
  settles _ _ _ _ _ _ _ _ done := nomatch done
  meets _ _ _ _ _ abreast _ := .error abreast

theorem map (g : α → β) (tandem : Tandem limit ahead p q inLine x y) :
    Tandem limit ahead p q inLine (g <$> x) (g <$> y) := by
  rw [← bind_pure_comp, ← bind_pure_comp]
  exact tandem.bind fun a => .pure (g a)

theorem look {see : Parse α} (sight : Cursor → α) (seen : α → Lexeme → Prop)
    (looks : ∀ c, see c = .ok (sight c) c)
    (same : ∀ (f : Fork) c twin, Abreast f c twin → ahead c.nextKind → sight twin = sight c)
    (shown : ∀ c, ahead c.nextKind → seen (sight c) c.nextKind)
    (rest : ∀ a, Tandem limit (seen a) p q inLine (k a) (l a)) :
    Tandem limit ahead p q inLine (see >>= k) (see >>= l) where
  onward c := by
    rw [bind_run, looks]
    exact (rest (sight c)).onward c
  settles total c b next short ends fits holds done := by
    rw [bind_run, looks] at done
    exact (rest (sight c)).settles total c b next short ends (shown c fits) holds done
  meets f c twin covered short abreast fits := by
    rw [bind_run, bind_run, looks, looks, same f c twin abreast fits]
    exact (rest (sight c)).meets f c twin covered short abreast (shown c fits)

theorem peek {k l : Token → Parse β}
    (rest : ∀ token, Tandem limit (· = token.kind) p q inLine (k token) (l token)) :
    Tandem limit ahead p q inLine (Parser.peek >>= k) (Parser.peek >>= l) :=
  look Cursor.next (fun token kind => kind = token.kind) (fun _ => rfl)
    (fun _ _ _ abreast _ => abreast.next) (fun _ _ => rfl) rest

theorem peek_kind {k l : Lexeme → Parse β}
    (rest : ∀ kind, Tandem limit (· = kind) p q inLine (k kind) (l kind)) :
    Tandem limit ahead p q inLine (Parser.peekKind >>= k) (Parser.peekKind >>= l) :=
  look Cursor.nextKind (fun shown kind => kind = shown) (fun _ => rfl)
    (fun _ _ _ abreast _ => abreast.next_kind) (fun _ _ => rfl) rest

theorem previous {k l : Token → Parse β}
    (rest : ∀ token, Tandem limit ahead p q inLine (k token) (l token)) :
    Tandem limit ahead p q inLine (Parser.previous >>= k) (Parser.previous >>= l) :=
  look Cursor.previous (fun _ => ahead) (fun _ => rfl) (fun _ _ _ abreast _ => abreast.previous)
    (fun _ fits => fits) rest

theorem span_from {start : Location} {k l : Location → Parse β}
    (rest : ∀ location, Tandem limit ahead p q inLine (k location) (l location)) :
    Tandem limit ahead p q inLine (Parser.spanFrom start >>= k) (Parser.spanFrom start >>= l) :=
  previous fun token => rest (start.through token.location)

theorem second_kind {k l : Lexeme → Parse β} (inside : ∀ kind, ahead kind → kind ≠ .newline)
    (rest : ∀ kind, Tandem limit ahead p q inLine (k kind) (l kind)) :
    Tandem limit ahead p q inLine (Parser.secondKind >>= k) (Parser.secondKind >>= l) :=
  look (fun c => ((c.rest.drop 1).headD c.finish).kind) (fun _ => ahead) (fun _ => rfl)
    (fun _ _ _ abreast fits => abreast.second (inside _ fits)) (fun _ fits => fits) rest

theorem check {kind : Lexeme} {k l : Bool → Parse β}
    (found : Tandem limit (· = kind) p q inLine (k true) (l true))
    (missing : Tandem limit anything p q inLine (k false) (l false)) :
    Tandem limit ahead p q inLine (Parser.check kind >>= k) (Parser.check kind >>= l) := by
  refine look (fun c => c.nextKind == kind) (fun same next => same = true → next = kind)
    (fun _ => rfl)
    (fun _ _ _ abreast _ => by rw [abreast.next_kind]) (fun _ _ same => eq_of_beq same) fun same =>
      ?_
  cases same with
  | true => exact found.mono (Nat.le_refl _) fun _ fits => fits rfl
  | false => exact missing.mono (Nat.le_refl _) fun _ _ => trivial

theorem checked {kind : Lexeme} {k l : Bool → Parse β}
    (rest : ∀ same, Tandem limit anything p q inLine (k same) (l same)) :
    Tandem limit ahead p q inLine (Parser.check kind >>= k) (Parser.check kind >>= l) :=
  check ((rest true).mono (Nat.le_refl _) fun _ _ => trivial) (rest false)

theorem fail (cause : ParseFault) :
    Tandem limit ahead p q inLine (Parser.fail (α := α) cause) (Parser.fail cause) :=
  peek fun token => fail_at cause token.location

theorem fail_expected (what : String) :
    Tandem limit ahead p q inLine (Parser.failExpected (α := α) what) (Parser.failExpected what) :=
  peek fun token => fail (.expected what (describe token))

theorem advance (inside : ∀ kind, ahead kind → kind ≠ .eof ∧ kind ≠ .newline) :
    Tandem limit ahead p .settled inLine Parser.advance Parser.advance where
  onward := advance_onward
  settles total c token next _ ends fits holds done := by
    obtain ⟨rest, shape⟩ := next_of_kind ends (inside _ fits).1
    rw [advance_run shape] at done
    injection done with _ stays
    have opened : c.rest.length ≤ total := holds.weaken (q := .opened) (Nat.zero_le _)
    rw [shape, List.length_cons] at opened
    rw [← stays]
    exact ⟨opened, (inside _ fits).2⟩
  meets f c twin _ _ abreast fits := advance_meets abreast fun _ => (inside _ fits).2

theorem advance_at {kind : Lexeme} (inside : kind ≠ .eof ∧ kind ≠ .newline) :
    Tandem limit (· = kind) p .settled inLine Parser.advance Parser.advance :=
  advance fun _ same => same ▸ inside

theorem advance_past : Tandem limit ahead p .opened false Parser.advance Parser.advance where
  onward := advance_onward
  settles total c token next _ _ _ holds done := by
    have onward := advance_onward c
    rw [done] at onward
    exact holds.onward onward
  meets f c twin covered _ abreast _ := by
    refine advance_meets abreast fun isLine => ?_
    exact absurd (covered isLine) (by simp)

theorem accept {kind : Lexeme} (inside : kind ≠ .eof ∧ kind ≠ .newline) :
    Tandem limit ahead p p inLine (Parser.accept kind) (Parser.accept kind) := by
  refine check ?_ (.pure false)
  refine bind (q := p) ?_ fun _ => .pure true
  exact (advance_at inside).phases (Nat.le_refl _) (by cases p <;> decide)

theorem consume {kind : Lexeme} {what : String} (inside : kind ≠ .eof ∧ kind ≠ .newline) :
    Tandem limit ahead p .settled inLine (Parser.consume kind what) (Parser.consume kind what) :=
  check (advance_at inside) (fail_expected what)

section

variable {condition : Bool} {x' y' : Parse α}

theorem ite (yes : condition = true → Tandem limit ahead p q inLine x y)
    (no : condition = false → Tandem limit ahead p q inLine x' y') :
    Tandem limit ahead p q inLine (if condition = true then x else x')
      (if condition = true then y else y') := by
  cases condition with
  | true => exact yes rfl
  | false => exact no rfl

theorem ite_bind (yes : condition = true → Tandem limit ahead p q inLine x y)
    (no : condition = false → Tandem limit ahead p q inLine x' y')
    (rest : ∀ a, Tandem limit anything q r inLine (k a) (l a)) :
    Tandem limit ahead p r inLine (if condition = true then x >>= k else x' >>= k)
      (if condition = true then y >>= l else y' >>= l) :=
  ite (fun holds => (yes holds).bind rest) fun fails => (no fails).bind rest

theorem unless_bind {x y : Parse Unit} {k l : Unit → Parse β}
    (yes : condition = true → Tandem limit ahead p q inLine x y)
    (rest : ∀ ahead, Tandem limit ahead q r inLine (k ()) (l ())) (early : q.rank ≤ p.rank) :
    Tandem limit ahead p r inLine (if condition = true then x >>= k else k ())
      (if condition = true then y >>= l else l ()) :=
  ite (fun holds => (yes holds).bind fun _ => rest anything)
    fun _ => (rest ahead).phases early (Nat.le_refl _)

theorem check_bind {kind : Lexeme} (found : Tandem limit (· = kind) p q inLine x y)
    (missing : Tandem limit anything p q inLine x' y')
    (rest : ∀ a, Tandem limit anything q r inLine (k a) (l a)) :
    Tandem limit ahead p r inLine
      (Parser.check kind >>= fun same => if same = true then x >>= k else x' >>= k)
      (Parser.check kind >>= fun same => if same = true then y >>= l else y' >>= l) :=
  check (found.bind rest) (missing.bind rest)

end

theorem skip_while (accepted : Lexeme → Bool) :
    Tandem limit ahead p .opened false (Parser.skipWhile accepted) (Parser.skipWhile accepted) where
  onward := skip_while_onward accepted
  settles total c token next _ _ _ holds done := by
    have onward := skip_while_onward accepted c
    rw [done] at onward
    exact holds.onward onward
  meets f c twin covered _ abreast _ := by
    refine skip_while_meets accepted abreast fun isLine => ?_
    exact absurd (covered isLine) (by simp)

theorem synchronize :
    Tandem limit ahead p .opened false Parser.synchronize Parser.synchronize :=
  (skip_while _).bind fun _ => advance_past.bind fun _ => .pure ()

theorem recover (step : Tandem limit ahead .opened q inLine x y) (moves : 1 ≤ q.rank)
    (more : ∀ kind, ahead kind → kind ≠ .eof) :
    Tandem limit ahead .opened .moved false (Parser.recover x) (Parser.recover y) where
  onward c := by
    have onward := step.onward c
    rw [recover_run]
    cases ran : x c with
    | ok a next =>
      rw [ran] at onward
      exact onward
    | error e next =>
      rw [ran] at onward
      exact (onward.trans (onward_note next e)).trans (synchronize_onward _)
  settles total c a next short ends fits holds done := by
    have opened : c.rest.length ≤ total := holds
    have onward := step.onward c
    rw [recover_run] at done
    cases ran : x c with
    | ok b middle =>
      simp only [ran, EStateM.Result.ok.injEq] at done
      rw [← done.2]
      exact (step.settles total c b middle short ends fits holds ran).weaken moves
    | error e middle =>
      simp only [ran, EStateM.Result.ok.injEq] at done
      rw [ran] at onward
      rw [← done.2]
      obtain ⟨rest, shape⟩ := next_of_kind ends (more _ fits)
      have some : 0 < c.rest.length := by simp [shape]
      have shorter : middle.rest.length ≤ c.rest.length := onward.shorter
      have moved := synchronize_shorter (middle.note e)
      rw [note_rest] at moved
      simp only [Phase.Holds]
      omega
  meets f c twin covered short abreast fits := by
    have met := step.meets f c twin
        (fun isLine => absurd (covered isLine) (by simp)) short abreast fits
    rw [recover_run, recover_run]
    cases ran : x c with
    | ok a next =>
      rw [ran] at met
      generalize y twin = other at met
      cases met with
      | ok abreast => exact .ok abreast
      | spilled lines passed => exact .spilled lines passed
    | error e next =>
      rw [ran] at met
      generalize y twin = other at met
      cases met with
      | error abreast =>
        have again : Tandem (next.rest.length + 1) anything .opened .opened false Parser.synchronize
            Parser.synchronize := synchronize
        have met := again.meets f (next.note e) _ covered (Nat.lt_succ_self _)
            (abreast.note e) trivial
        simp only [synchronize_run] at met ⊢
        cases met with
        | ok abreast => exact .ok abreast
        | spilled lines passed => exact .spilled lines passed
      | spilled lines passed =>
        exact .spilled lines ((synchronize_onward (next.note e)).exhausted passed)

end Tandem

end Parser

end BrightScript
