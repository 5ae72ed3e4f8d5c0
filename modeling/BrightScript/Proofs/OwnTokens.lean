import BrightScript.Proofs.ParserRuns
set_option autoImplicit false

/-!
Rules that heed only the tokens they read. One run of the parser has nothing behind a stretch of
tokens; another reads the same tokens, which may stand elsewhere, with anything behind them. A rule
is insular if both come to the same up to locations, as long as the first stops short of the end of
the stretch. There they may differ, unless the first has a value and the second sees nothing that
the value could go on with.
-/

namespace BrightScript

def Token.unplaced (t : Token) : Token :=
  { t with location := .internal }

theorem Token.same_but_location {t u : Token} (same : t.unplaced = u.unplaced) :
    u = { t with location := u.location } := by
  obtain ⟨kind, text, literal, location⟩ := t
  obtain ⟨_, _, _, place⟩ := u
  cases same
  rfl

theorem Token.same_kind {t u : Token} (same : t.unplaced = u.unplaced) : t.kind = u.kind := by
  rw [Token.same_but_location same]

theorem Token.same_text {t u : Token} (same : t.unplaced = u.unplaced) : t.text = u.text := by
  rw [Token.same_but_location same]

namespace Parser

variable {α β γ δ : Type}

structure Seam where
  tail : List Token
  finish : Token
  twinFinish : Token
  errors : List ParseError
  twinErrors : List ParseError
  ends : finish.kind = .eof

def Seam.behind (s : Seam) : Lexeme :=
  (s.tail.headD s.twinFinish).kind

-- Of the tokens read before, only a line end right behind the cursor is ever seen again.
structure Alongside (s : Seam) (c twin : Cursor) : Prop where
  rest : ∃ others, c.rest.map Token.unplaced = others.map Token.unplaced ∧
    twin.rest = others ++ s.tail
  previous : (c.previous.kind == .newline) = (twin.previous.kind == .newline)
  finish : c.finish = s.finish
  twinFinish : twin.finish = s.twinFinish
  errors : ∃ noted twinNoted, noted.map Located.cause = twinNoted.map Located.cause ∧
    c.errors = s.errors ++ noted ∧ twin.errors = s.twinErrors ++ twinNoted

inductive Concurs (s : Seam) (f : α → γ) :
    EStateM.Result ParseError Cursor α → EStateM.Result ParseError Cursor α → Prop
  | ok {a b : α} {c twin : Cursor} (same : f a = f b) (alongside : Alongside s c twin) :
      Concurs s f (.ok a c) (.ok b twin)
  | error {e d : ParseError} {c twin : Cursor} (same : e.cause = d.cause)
      (alongside : Alongside s c twin) : Concurs s f (.error e c) (.error d twin)

section

variable {s : Seam} {c twin : Cursor}

theorem Alongside.ends (alongside : Alongside s c twin) : c.finish.kind = .eof := by
  rw [alongside.finish]
  exact s.ends

theorem Alongside.exhausted (alongside : Alongside s c twin) (done : c.rest = []) :
    twin.rest = s.tail := by
  obtain ⟨others, same, shape⟩ := alongside.rest
  rw [done] at same
  rw [shape, List.map_eq_nil_iff.1 same.symm, List.nil_append]

theorem Alongside.behind (alongside : Alongside s c twin) (done : c.rest = []) :
    twin.nextKind = s.behind := by
  rw [Cursor.nextKind, Cursor.next, alongside.exhausted done, alongside.twinFinish, Seam.behind]

theorem Alongside.step {token : Token} {rest : List Token} (alongside : Alongside s c twin)
    (shape : c.rest = token :: rest) :
    ∃ other others, twin.rest = other :: others ∧ token.unplaced = other.unplaced ∧
      Alongside s { c with rest := rest, previous := token }
        { twin with rest := others, previous := other } := by
  obtain ⟨others, same, twinShape⟩ := alongside.rest
  rw [shape] at same
  cases others with
  | nil => exact nomatch same
  | cons other others =>
    obtain ⟨first, later⟩ := List.cons.inj same
    exact ⟨other, others ++ s.tail, twinShape, first, ⟨others, later, rfl⟩,
      by simp only [Token.same_kind first], alongside.finish, alongside.twinFinish,
        alongside.errors⟩

theorem Alongside.next (alongside : Alongside s c twin) (more : c.rest ≠ []) :
    c.next.unplaced = twin.next.unplaced := by
  obtain ⟨token, rest, shape⟩ := List.exists_cons_of_ne_nil more
  obtain ⟨other, others, twinShape, same, _⟩ := alongside.step shape
  rw [Cursor.next, Cursor.next, shape, twinShape]
  exact same

theorem Alongside.note {e d : ParseError} (alongside : Alongside s c twin)
    (same : e.cause = d.cause) : Alongside s (c.note e) (twin.note d) where
  rest := alongside.rest
  previous := alongside.previous
  finish := alongside.finish
  twinFinish := alongside.twinFinish
  errors := by
    obtain ⟨noted, twinNoted, causes, errors, twinErrors⟩ := alongside.errors
    refine ⟨noted ++ [e], twinNoted ++ [d], ?_, ?_, ?_⟩
    · simp [causes, same]
    · simp [Cursor.note, errors]
    · simp [Cursor.note, twinErrors]

end

theorem skip_while_concurs (accepted : Lexeme → Bool) {s : Seam} {c twin : Cursor}
    (alongside : Alongside s c twin) (short : (finalState (skipWhile accepted c)).rest ≠ []) :
    Concurs s id (skipWhile accepted c) (skipWhile accepted twin) := by
  obtain ⟨rest, previous, finish, errors⟩ := c
  induction rest generalizing previous twin with
  | nil => exact absurd ((skip_while_onward accepted _).exhausted rfl) short
  | cons token rest ih =>
    obtain ⟨_, before, twinFinish, twinErrors⟩ := twin
    obtain ⟨other, others, rfl, same, later⟩ := alongside.step rfl
    rw [skip_while_cons] at short ⊢
    rw [skip_while_cons, ← Token.same_kind same]
    by_cases admitted : accepted token.kind = true
    · rw [if_pos admitted] at short ⊢
      rw [if_pos admitted]
      exact ih _ later short
    · rw [if_neg admitted, if_neg admitted]
      exact .ok rfl alongside

-- The first run stops short of the end, or has a value there and sees none of what could go on with
-- it behind.
def Shelters (s : Seam) (ends : Lexeme → Prop) (r : EStateM.Result ParseError Cursor α) : Prop :=
  (finalState r).rest ≠ [] ∨ (∃ a next, r = .ok a next) ∧ ends s.behind

-- The rules `x` and `y` come to what `f` does not tell apart, where `ahead` is said of the next
-- token. If that is so at the end of the stretch as well, then before a token of which `ends` is
-- said.
structure Insular (ahead ends : Lexeme → Prop) (moves : Bool) (f : α → γ) (x y : Parse α) :
    Prop where
  onward : ∀ c, Onward c (finalState (x c))
  moved : moves = true → ∀ c a next, c.finish.kind = .eof → ahead c.nextKind → x c = .ok a next →
    next.rest.length < c.rest.length
  concurs : ∀ s c twin, Alongside s c twin → ahead c.nextKind → Shelters s ends (x c) →
    Concurs s f (x c) (y twin)

def nowhere : Lexeme → Prop := fun _ => False

-- A rule that cannot have a value without reading on has none at the end of the stretch.
class Shut (ends : Lexeme → Prop) (moves : Bool) : Prop where
  moves : ∀ kind, ends kind → moves = true

instance {moves : Bool} : Shut nowhere moves :=
  ⟨fun _ absurd => absurd.elim⟩

instance {ends : Lexeme → Prop} : Shut ends true :=
  ⟨fun _ _ => rfl⟩

namespace Insular

variable {ahead ends : Lexeme → Prop} {moves : Bool} {f : α → γ} {h : β → δ} {x y : Parse α}
  {k l : α → Parse β}

theorem at_kind {kind : Lexeme} (insular : Insular ahead ends moves f x y) (fits : ahead kind) :
    Insular (· = kind) ends moves f x y where
  onward := insular.onward
  moved reads c a next finish same := insular.moved reads c a next finish (same ▸ fits)
  concurs s c twin alongside same := insular.concurs s c twin alongside (same ▸ fits)

theorem anywhere (insular : Insular anything ends moves f x y) :
    Insular ahead ends moves f x y where
  onward := insular.onward
  moved reads c a next finish _ := insular.moved reads c a next finish trivial
  concurs s c twin alongside _ := insular.concurs s c twin alongside trivial

theorem slack (insular : Insular ahead ends true f x y) : Insular ahead ends moves f x y where
  onward := insular.onward
  moved _ := insular.moved rfl
  concurs := insular.concurs

theorem within (insular : Insular anything ends moves f x y) :
    Insular ahead nowhere false f x y where
  onward := insular.onward
  moved := nofun
  concurs s c twin alongside _ shelters := by
    refine insular.concurs s c twin alongside trivial (shelters.imp_right ?_)
    exact fun ⟨_, absurd⟩ => absurd.elim

theorem closes_before {fewer : Lexeme → Prop} (insular : Insular ahead ends moves f x y)
    (narrower : ∀ kind, fewer kind → ends kind) : Insular ahead fewer moves f x y where
  onward := insular.onward
  moved := insular.moved
  concurs s c twin alongside fits shelters := by
    refine insular.concurs s c twin alongside fits (shelters.imp_right ?_)
    exact fun ⟨value, closes⟩ => ⟨value, narrower _ closes⟩

theorem exhausted (insular : Insular ahead ends moves f x y) {c : Cursor} (done : c.rest = []) :
    (finalState (x c)).rest = [] :=
  (insular.onward c).exhausted done

-- Short of the end the second rule goes on from where both are alongside each other. At the end the
-- first must have closed as well, unless the second rule cannot have got its value there.
theorem bind_both {early : Lexeme → Prop} {m n : Bool} (first : Insular ahead early m f x y)
    (rest : ∀ a b, f a = f b → Insular anything ends n h (k a) (l b))
    (closes : ∀ kind, ends kind → early kind ∨ n = true)
    (reads : moves = true → m = true ∨ n = true) :
    Insular ahead ends moves h (x >>= k) (y >>= l) where
  onward c := by
    have onward := first.onward c
    rw [bind_run]
    cases ran : x c with
    | ok a next =>
      rw [ran] at onward
      exact onward.trans ((rest a a rfl).onward next)
    | error e next =>
      rw [ran] at onward
      exact onward
  moved wanted c b last finish fits done := by
    have onward := first.onward c
    rw [bind_run] at done
    cases ran : x c with
    | error e next => simp [ran] at done
    | ok a next =>
      rw [ran] at onward done
      change k a next = .ok b last at done
      have onwards := (rest a a rfl).onward next
      rw [done] at onwards
      have shorter : next.rest.length ≤ c.rest.length := onward.shorter
      have shorterStill : last.rest.length ≤ next.rest.length := onwards.shorter
      rcases reads wanted with moved | moved
      · have := first.moved moved c a next finish fits ran
        omega
      · have := (rest a a rfl).moved moved next b last (onward.finish ▸ finish) trivial done
        omega
  concurs s c twin alongside fits shelters := by
    rw [bind_run] at shelters ⊢
    rw [bind_run]
    cases ran : x c with
    | error e next =>
      rw [ran] at shelters
      have short : next.rest ≠ [] := shelters.resolve_right fun ⟨⟨_, _, value⟩, _⟩ => nomatch value
      have met := first.concurs s c twin alongside fits (.inl (by rwa [ran]))
      rw [ran] at met
      generalize y twin = other at met
      cases met with
      | error same alongside => exact .error same alongside
    | ok a next =>
      rw [ran] at shelters
      change Shelters s ends (k a next) at shelters
      have onward := (rest a a rfl).onward next
      have finish : next.finish.kind = .eof := by
        have reached := first.onward c
        rw [ran] at reached
        exact reached.finish ▸ alongside.ends
      have sheltered : Shelters s early (x c) := by
        rw [ran]
        by_cases done : next.rest = []
        · obtain short | ⟨⟨b, last, value⟩, ending⟩ := shelters
          · exact absurd (onward.exhausted done) short
          · obtain early | moved := closes _ ending
            · exact .inr ⟨⟨a, next, rfl⟩, early⟩
            · have shorter := (rest a a rfl).moved moved next b last finish trivial value
              rw [done] at shorter
              exact absurd shorter (Nat.not_lt_zero _)
        · exact .inl done
      have met := first.concurs s c twin alongside fits sheltered
      rw [ran] at met
      generalize y twin = other at met
      cases met with
      | ok same alongside => exact (rest a _ same).concurs s next _ alongside trivial shelters

theorem bind [Shut ends moves] (first : Insular ahead nowhere false f x y)
    (rest : ∀ a b, f a = f b → Insular anything ends moves h (k a) (l b)) :
    Insular ahead ends moves h (x >>= k) (y >>= l) :=
  first.bind_both rest (fun kind closes => .inr (Shut.moves kind closes)) .inr

theorem bind_same [Shut ends moves] (first : Insular ahead nowhere false id x y)
    (rest : ∀ a, Insular anything ends moves h (k a) (l a)) :
    Insular ahead ends moves h (x >>= k) (y >>= l) :=
  first.bind fun a b same => by
    obtain rfl : a = b := same
    exact rest a

theorem and_then (first : Insular ahead ends true f x y)
    (rest : ∀ a b, f a = f b → Insular anything ends false h (k a) (l b)) :
    Insular ahead ends moves h (x >>= k) (y >>= l) :=
  first.bind_both rest (fun _ closes => .inl closes) fun _ => .inl rfl

protected theorem pure {a b : α} (same : f a = f b) :
    Insular ahead ends false f (pure a) (pure b) where
  onward c := .refl c
  moved := nofun
  concurs _ _ _ alongside _ _ := .ok same alongside

theorem fail_at (cause : ParseFault) (location place : Location) :
    Insular ahead ends moves f (Parser.failAt cause location) (Parser.failAt cause place) where
  onward c := .refl c
  moved _ _ _ _ _ _ done := nomatch done
  concurs _ _ _ alongside _ _ := .error rfl alongside

theorem map {g : α → β} (insular : Insular ahead nowhere false f x y)
    (same : ∀ a b, f a = f b → h (g a) = h (g b)) :
    Insular ahead nowhere false h (g <$> x) (g <$> y) := by
  rw [← bind_pure_comp, ← bind_pure_comp]
  exact insular.bind fun a b alike => .pure (same a b alike)

theorem look {see : Parse α} (sight : Cursor → α) (seen : α → Lexeme → Prop)
    (looks : ∀ c, see c = .ok (sight c) c)
    (shown : ∀ c, ahead c.nextKind → seen (sight c) c.nextKind)
    (same : ∀ s c twin, Alongside s c twin → ahead c.nextKind →
      f (sight c) = f (sight twin) ∨ c.rest = [] ∧ ∀ kind, ends kind → moves = true)
    (rest : ∀ a b, f a = f b → Insular (seen a) ends moves h (k a) (l b)) :
    Insular ahead ends moves h (see >>= k) (see >>= l) where
  onward c := by
    rw [bind_run, looks]
    exact (rest _ _ rfl).onward c
  moved reads c b next finish fits done := by
    rw [bind_run, looks] at done
    exact (rest _ _ rfl).moved reads c b next finish (shown c fits) done
  concurs s c twin alongside fits shelters := by
    rw [bind_run, looks] at shelters ⊢
    rw [bind_run, looks]
    obtain alike | ⟨done, shut⟩ := same s c twin alongside fits
    · exact (rest _ _ alike).concurs s c twin alongside (shown c fits) shelters
    · have here := rest (sight c) (sight c) rfl
      obtain short | ⟨⟨b, next, value⟩, closes⟩ := shelters
      · exact absurd (here.exhausted done) short
      · have shorter := here.moved (shut _ closes) c b next alongside.ends (shown c fits) value
        rw [done] at shorter
        exact absurd shorter (Nat.not_lt_zero _)

theorem peek [Shut ends moves] {k l : Token → Parse β}
    (rest : ∀ token place, Insular (· = token.kind) ends moves h (k token)
      (l { token with location := place })) :
    Insular ahead ends moves h (Parser.peek >>= k) (Parser.peek >>= l) := by
  refine look (f := Token.unplaced) Cursor.next (fun token kind => kind = token.kind) (fun _ => rfl)
    (fun _ _ => rfl) (fun s c twin alongside _ => ?_) fun token other same => ?_
  · by_cases done : c.rest = []
    · exact .inr ⟨done, Shut.moves⟩
    · exact .inl (alongside.next done)
  · rw [Token.same_but_location same]
    exact rest token other.location

theorem peek_kind [Shut ends moves] {k l : Lexeme → Parse β}
    (rest : ∀ kind, Insular (· = kind) ends moves h (k kind) (l kind)) :
    Insular ahead ends moves h (Parser.peekKind >>= k) (Parser.peekKind >>= l) :=
  peek (k := fun token => k token.kind) (l := fun token => l token.kind) fun token _ =>
    rest token.kind

theorem previous {k l : Token → Parse β}
    (rest : ∀ token other, (token.kind == .newline) = (other.kind == .newline) →
      Insular ahead ends moves h (k token) (l other)) :
    Insular ahead ends moves h (Parser.previous >>= k) (Parser.previous >>= l) :=
  look (f := fun token => token.kind == .newline) Cursor.previous (fun _ => ahead) (fun _ => rfl)
    (fun _ fits => fits) (fun _ _ _ alongside _ => .inl alongside.previous) rest

theorem span_from {start begin : Location} {k l : Location → Parse β}
    (rest : ∀ location place, Insular ahead ends moves h (k location) (l place)) :
    Insular ahead ends moves h (Parser.spanFrom start >>= k) (Parser.spanFrom begin >>= l) :=
  previous fun token other _ => rest (start.through token.location) (begin.through other.location)

theorem peek_kind_open {k l : Lexeme → Parse β}
    (closed : ∀ kind, ends kind → ∃ a b, h a = h b ∧ k .eof = pure a ∧ l kind = pure b)
    (rest : ∀ kind, Insular (· = kind) ends false h (k kind) (l kind)) :
    Insular ahead ends false h (Parser.peekKind >>= k) (Parser.peekKind >>= l) where
  onward c := (rest c.nextKind).onward c
  moved := nofun
  concurs s c twin alongside fits shelters := by
    change Concurs s h (k c.nextKind c) (l twin.nextKind twin)
    by_cases done : c.rest = []
    · obtain short | ⟨_, closes⟩ := shelters
      · exact absurd ((rest c.nextKind).exhausted done) short
      · obtain ⟨a, b, same, first, second⟩ := closed _ closes
        have finish : c.nextKind = .eof := by
          rw [Cursor.nextKind, Cursor.next, done, List.headD_nil, alongside.ends]
        rw [finish, first, alongside.behind done, second]
        exact .ok same alongside
    · have kind : c.nextKind = twin.nextKind := Token.same_kind (alongside.next done)
      rw [← kind]
      exact (rest c.nextKind).concurs s c twin alongside rfl shelters

section

variable [Shut ends moves] {kind : Lexeme} {k l : Bool → Parse β}

theorem check (found : Insular (· = kind) ends moves h (k true) (l true))
    (missing : Insular anything ends moves h (k false) (l false)) :
    Insular ahead ends moves h (Parser.check kind >>= k) (Parser.check kind >>= l) := by
  refine look (f := id) (fun c => c.nextKind == kind) (fun same next => same = true → next = kind)
    (fun _ => rfl)
    (fun _ _ same => eq_of_beq same) (fun s c twin alongside _ => ?_) fun same other alike => ?_
  · by_cases done : c.rest = []
    · exact .inr ⟨done, Shut.moves⟩
    · exact .inl (congrArg (· == kind) (Token.same_kind (alongside.next done)))
  · obtain rfl : same = other := alike
    cases same with
    | true =>
      exact ⟨found.onward, fun reads c a next finish fits => found.moved reads c a next finish
        (fits rfl), fun s c twin alongside fits => found.concurs s c twin alongside (fits rfl)⟩
    | false => exact missing.anywhere

theorem checked (rest : ∀ same, Insular anything ends moves h (k same) (l same)) :
    Insular ahead ends moves h (Parser.check kind >>= k) (Parser.check kind >>= l) :=
  check (rest true).anywhere (rest false)

end

theorem fail (cause : ParseFault) :
    Insular ahead ends moves f (Parser.fail cause) (Parser.fail cause) :=
  slack (peek fun token place => fail_at cause token.location place)

theorem fail_expected (what : String) :
    Insular ahead ends moves f (Parser.failExpected what) (Parser.failExpected what) :=
  slack (peek fun token _ => fail (.expected what (describe token)))

theorem advance (inside : ∀ kind, ahead kind → kind ≠ .eof) :
    Insular ahead ends moves Token.unplaced Parser.advance Parser.advance where
  onward := advance_onward
  moved _ c token next finish fits done := by
    obtain ⟨rest, shape⟩ := next_of_kind finish (inside _ fits)
    rw [advance_run shape] at done
    injection done with _ stays
    rw [← stays, shape]
    exact Nat.lt_succ_self _
  concurs s c twin alongside fits _ := by
    obtain ⟨rest, shape⟩ := next_of_kind alongside.ends (inside _ fits)
    obtain ⟨other, others, twinShape, same, later⟩ := alongside.step shape
    rw [advance_run shape, advance_run twinShape]
    exact .ok same later

theorem advance_at {kind : Lexeme} (inside : kind ≠ .eof) :
    Insular (· = kind) ends moves Token.unplaced Parser.advance Parser.advance :=
  advance fun _ same => same ▸ inside

theorem advance_past :
    Insular ahead nowhere false Token.unplaced Parser.advance Parser.advance where
  onward := advance_onward
  moved := nofun
  concurs s c twin alongside _ shelters := by
    have short := shelters.resolve_right fun ⟨_, absurd⟩ => absurd.elim
    cases shape : c.rest with
    | nil => exact absurd ((advance_onward c).exhausted shape) short
    | cons token rest =>
      obtain ⟨other, others, twinShape, same, later⟩ := alongside.step shape
      rw [advance_run shape, advance_run twinShape]
      exact .ok same later

theorem accept {kind : Lexeme} (inside : kind ≠ .eof) :
    Insular ahead nowhere false id (Parser.accept kind) (Parser.accept kind) :=
  check ((advance_at inside).bind fun _ _ _ => .pure rfl) (.pure rfl)

theorem consume {kind : Lexeme} {what : String} (inside : kind ≠ .eof) :
    Insular ahead ends moves Token.unplaced (Parser.consume kind what) (Parser.consume kind what) :=
  slack (check (advance_at inside) (fail_expected what))

section

variable {condition : Bool} {x' y' : Parse α}

theorem ite (yes : condition = true → Insular ahead ends moves f x y)
    (no : condition = false → Insular ahead ends moves f x' y') :
    Insular ahead ends moves f (if condition = true then x else x')
      (if condition = true then y else y') := by
  cases condition with
  | true => exact yes rfl
  | false => exact no rfl

variable [Shut ends moves]

theorem ite_bind (yes : condition = true → Insular ahead nowhere false f x y)
    (no : condition = false → Insular ahead nowhere false f x' y')
    (rest : ∀ a b, f a = f b → Insular anything ends moves h (k a) (l b)) :
    Insular ahead ends moves h (if condition = true then x >>= k else x' >>= k)
      (if condition = true then y >>= l else y' >>= l) :=
  ite (fun holds => (yes holds).bind rest) fun fails => (no fails).bind rest

theorem unless_bind {x y : Parse Unit} {k l : Unit → Parse β}
    (yes : condition = true → Insular ahead nowhere false id x y)
    (rest : Insular anything ends moves h (k ()) (l ())) :
    Insular ahead ends moves h (if condition = true then x >>= k else k ())
      (if condition = true then y >>= l else l ()) :=
  ite (fun holds => (yes holds).bind_same fun _ => rest) fun _ => rest.anywhere

theorem check_bind {kind : Lexeme} (found : Insular (· = kind) nowhere false f x y)
    (missing : Insular anything nowhere false f x' y')
    (rest : ∀ a b, f a = f b → Insular anything ends moves h (k a) (l b)) :
    Insular ahead ends moves h
      (Parser.check kind >>= fun same => if same = true then x >>= k else x' >>= k)
      (Parser.check kind >>= fun same => if same = true then y >>= l else y' >>= l) :=
  check (found.bind rest) (missing.bind rest)

end

theorem skip_while (accepted : Lexeme → Bool) :
    Insular ahead nowhere false id (Parser.skipWhile accepted) (Parser.skipWhile accepted) where
  onward := skip_while_onward accepted
  moved := nofun
  concurs _ _ _ alongside _ shelters :=
    skip_while_concurs accepted alongside (shelters.resolve_right fun ⟨_, absurd⟩ => absurd.elim)

theorem synchronize : Insular ahead nowhere false id Parser.synchronize Parser.synchronize :=
  (skip_while _).bind_same fun _ => advance_past.bind fun _ _ _ => .pure rfl

theorem recover (step : Insular ahead nowhere false f x y) :
    Insular ahead nowhere false (Option.map f) (Parser.recover x) (Parser.recover y) where
  onward c := by
    have onward := step.onward c
    rw [recover_run]
    cases ran : x c with
    | ok a next =>
      rw [ran] at onward
      exact onward
    | error e next =>
      rw [ran] at onward
      exact (onward.trans (onward_note next e)).trans (synchronize_onward _)
  moved := nofun
  concurs s c twin alongside fits shelters := by
    have short := shelters.resolve_right fun ⟨_, absurd⟩ => absurd.elim
    rw [recover_run] at short ⊢
    rw [recover_run]
    cases ran : x c with
    | ok a next =>
      rw [ran] at short
      have met := step.concurs s c twin alongside fits (.inl (by rwa [ran]))
      rw [ran] at met
      generalize y twin = other at met
      cases met with
      | ok same alongside => exact .ok (congrArg some same) alongside
    | error e next =>
      rw [ran] at short
      -- What recovery leaves was there before it.
      have left : next.rest ≠ [] := fun done =>
        short ((synchronize_onward (next.note e)).exhausted done)
      have met := step.concurs s c twin alongside fits (.inl (by rwa [ran]))
      rw [ran] at met
      generalize y twin = other at met
      cases met with
      | @error _ d _ twin same alongside =>
        have again : Insular anything nowhere false id Parser.synchronize Parser.synchronize :=
          synchronize
        have met := again.concurs s _ _ (alongside.note same) trivial
        simp only [synchronize_run] at met short ⊢
        cases met (.inl short) with
        | ok _ alongside => exact .ok rfl alongside

end Insular

end Parser

end BrightScript
