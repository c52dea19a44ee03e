import NetworkWrapper.SendQueue

set_option autoImplicit false

namespace NetworkWrapper

def utf8 (text : String) : Bytes := text.toByteArray.data.toList

-- stringstream << int32_t
def decimal (id : Int) : Bytes := utf8 (toString id)

def newClientText (id : Int) : Bytes := utf8 "[BROADCAST][NEW CLIENT]: " ++ decimal id

def welcomeText (id : Int) : Bytes := utf8 "[YOU ONLY][WELCOME] your ID is \"" ++ (decimal id ++ utf8 "\"")

def newMessageText (id : Int) (messageReceived : Bytes) : Bytes :=
  utf8 "[BROADCAST][NEW MESSAGE][FROM \"" ++ (decimal id ++ (utf8 "\"] \"" ++ (messageReceived ++ utf8 "\"")))

def fromYouText (messageReceived : Bytes) : Bytes :=
  utf8 "[BROADCAST][NEW MESSAGE][FROM YOU] \"" ++ (messageReceived ++ utf8 "\"")

def clientLeftText (id : Int) : Bytes := utf8 "[BROADCAST][CLIENT LEFT][WAS \"" ++ (decimal id ++ utf8 "\"]")

-- Every text starts with its own tag, so none of them is the empty payload on
-- which the constructor of a send buffer throws.
theorem new_client_nonempty (id : Int) : newClientText id ≠ [] :=
  List.append_ne_nil_of_left_ne_nil (by decide) _

theorem welcome_nonempty (id : Int) : welcomeText id ≠ [] :=
  List.append_ne_nil_of_left_ne_nil (by decide) _

theorem new_message_nonempty (id : Int) (messageReceived : Bytes) : newMessageText id messageReceived ≠ [] :=
  List.append_ne_nil_of_left_ne_nil (by decide) _

theorem from_you_nonempty (messageReceived : Bytes) : fromYouText messageReceived ≠ [] :=
  List.append_ne_nil_of_left_ne_nil (by decide) _

theorem client_left_nonempty (id : Int) : clientLeftText id ≠ [] :=
  List.append_ne_nil_of_left_ne_nil (by decide) _

end NetworkWrapper
