import Entitlement.Record.Codec

/-!
Texts by locale, and the choice of one of them. The exact locale wins, then its language, then the
default locale, then the first locale in key order.
-/

namespace Entitlement

open Record

structure Localized where
  texts : Dict String
  deriving DecidableEq, Inhabited

def defaultLocale : String := "en"

/-- The language of a locale: what stands before the first underscore or hyphen. -/
def languageOf (locale : String) : String :=
  String.ofList (locale.toList.takeWhile fun c => c != '_' && c != '-')

namespace Localized

def empty : Localized := ⟨.empty⟩

def insert (messages : Localized) (locale text : String) : Localized :=
  ⟨messages.texts.insert locale text⟩

def first? (messages : Localized) : Option String :=
  messages.texts.entries.head?.map (·.2)

def select (messages : Localized) (locale : String) : Option String :=
  (messages.texts.get? locale).or <|
    (messages.texts.get? (languageOf locale)).or <|
      (messages.texts.get? defaultLocale).or messages.first?

def codec : Codec Localized := .via (.dict .text) Localized.mk Localized.texts

end Localized

end Entitlement
