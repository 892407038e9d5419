/-!
# Names of emoji

* `emojiRows` holds names in the order of the code points of their symbols;
* `sequenceRows` holds the names whose symbols have several code points, and `familyRows` those of
  families;
* `tonedRows`, `genderedRows` and `tradeRows` hold the names whose symbols come in the tones of
  skin, the last two those that come for men and for women;
* `flagRows` holds the names of the flags of countries.
-/

namespace SoapStubs.Console

/-- Names of emoji.  An equals sign with a code point gives the symbol of the word behind it, and
the next words have the next symbols.  A bar divides the names of one symbol. -/
def emojiRows : List String := [
  "=a9 copyright =ae registered =203c double_exclamation_mark|bangbang =2049",
  "exclamation_question_mark|interrobang =2122 trade_mark|tm =2139",
  "information|information_source =2194 left-right_arrow|left_right_arrow",
  "up-down_arrow|arrow_up_down up-left_arrow|arrow_upper_left up-right_arrow|arrow_upper_right",
  "down-right_arrow|arrow_lower_right down-left_arrow|arrow_lower_left =21a9",
  "right_arrow_curving_left|leftwards_arrow_with_hook left_arrow_curving_right|arrow_right_hook",
  "=231a watch hourglass_done|hourglass =2328 keyboard =2388 helm_symbol =23cf",
  "eject_button|eject_symbol =23e9 fast-forward_button|fast_forward fast_reverse_button|rewind",
  "fast_up_button|arrow_double_up fast_down_button|arrow_double_down",
  "next_track_button|black_right__pointing_double_triangle_with_vertical_bar",
  "last_track_button|black_left__pointing_double_triangle_with_vertical_bar",
  "play_or_pause_button|black_right__pointing_triangle_with_double_vertical_bar alarm_clock",
  "stopwatch timer_clock hourglass_not_done|hourglass_flowing_sand =23f8",
  "pause_button|double_vertical_bar stop_button|black_square_for_stop",
  "record_button|black_circle_for_record =24c2 circled_m|m =25aa black_small_square",
  "white_small_square =25b6 play_button|arrow_forward =25c0 reverse_button|arrow_backward =25fb",
  "white_medium_square black_medium_square white_medium-small_square|white_medium_small_square",
  "black_medium-small_square|black_medium_small_square =2600 sun|sunny cloud umbrella snowman",
  "comet =260e telephone|phone =2611 ballot_box_with_check =2614 umbrella_with_rain_drops",
  "hot_beverage|coffee =2618 shamrock =261d point_up =2620 skull_and_crossbones =2622",
  "radioactive|radioactive_sign biohazard|biohazard_sign =2626 orthodox_cross =262a",
  "star_and_crescent =262e peace_symbol yin_yang =2638 wheel_of_dharma",
  "frowning_face|white_frowning_face smiling_face|relaxed =2640 female_sign =2642 male_sign",
  "=2648 aries taurus gemini cancer leo virgo libra scorpio|scorpius sagittarius capricorn",
  "aquarius pisces =265f chess_pawn spade_suit|spades =2663 club_suit|clubs =2665",
  "heart_suit|hearts diamond_suit|diamonds =2668 hot_springs|hotsprings =267b",
  "recycling_symbol|recycle =267e infinity wheelchair_symbol|wheelchair =2692 hammer_and_pick",
  "anchor crossed_swords medical_symbol balance_scale|scales alembic =2699 gear =269b",
  "atom_symbol fleur-de-lis|fleur__de__lis =26a0 warning high_voltage|zap =26aa white_circle",
  "black_circle =26b0 coffin funeral_urn =26bd soccer_ball|soccer baseball =26c4",
  "snowman_without_snow sun_behind_cloud|partly_sunny =26c8",
  "cloud_with_lightning_and_rain|thunder_cloud_and_rain =26ce ophiuchus pick =26d1",
  "rescue_worker’s_helmet|helmet_with_white_cross =26d3 chains no_entry =26e9 shinto_shrine",
  "church =26f0 mountain umbrella_on_ground fountain flag_in_hole|golf ferry sailboat|boat",
  "=26f7 skier ice_skate person_with_ball tent =26fd fuel_pump|fuelpump =2702 scissors =2705",
  "white_heavy_check_mark|white_check_mark =2708 airplane envelope|email fist hand v =270f",
  "pencil2 =2712 black_nib =2714 heavy_check_mark =2716 heavy_multiplication_x =271d",
  "latin_cross =2721 star_of_david =2728 sparkles =2733",
  "eight-spoked_asterisk|eight_spoked_asterisk eight-pointed_star|eight_pointed_black_star",
  "=2744 snowflake =2747 sparkle =274c cross_mark|x =274e",
  "cross_mark_button|negative_squared_cross_mark =2753 question_mark|question",
  "white_question_mark|grey_question white_exclamation_mark|grey_exclamation =2757",
  "exclamation_mark|exclamation|heavy_exclamation_mark =2763",
  "heavy_heart_exclamation|heavy_heart_exclamation_mark_ornament red_heart|heart =2795",
  "heavy_plus_sign heavy_minus_sign heavy_division_sign =27a1 right_arrow|arrow_right =27b0",
  "curly_loop =27bf double_curly_loop|loop =2934 right_arrow_curving_up|arrow_heading_up",
  "right_arrow_curving_down|arrow_heading_down =2b05 left_arrow|arrow_left up_arrow|arrow_up",
  "down_arrow|arrow_down =2b1b black_large_square white_large_square =2b50",
  "white_medium_star|star =2b55 heavy_large_circle|o =3030 wavy_dash =303d",
  "part_alternation_mark =3297 japanese_congratulations_button|congratulations =3299",
  "japanese_secret_button|secret =1f004 mahjong_red_dragon|mahjong =1f0cf joker|black_joker",
  "=1f170 a_button_(blood_type)|a b_button_(blood_type)|b =1f17e o_button_(blood_type)|o2",
  "p_button|parking =1f18e ab_button_(blood_type)|ab =1f191 cl_button|cl cool_button|cool",
  "free_button|free id_button|id new_button|new ng_button|ng ok_button|ok sos_button|sos",
  "up!_button|up vs_button|vs =1f201 japanese_here_button|koko",
  "japanese_service_charge_button|sa =1f21a japanese_free_of_charge_button|u7121 =1f22f",
  "japanese_reserved_button|u6307 =1f232 japanese_prohibited_button|u7981",
  "japanese_vacancy_button|u7a7a japanese_passing_grade_button|u5408",
  "japanese_no_vacancy_button|u6e80 japanese_not_free_of_charge_button|u6709",
  "japanese_monthly_amount_button|u6708 japanese_application_button|u7533",
  "japanese_discount_button|u5272 japanese_open_for_business_button|u55b6 =1f250",
  "japanese_bargain_button|ideograph_advantage japanese_acceptable_button|accept =1f300 cyclone",
  "foggy closed_umbrella night_with_stars sunrise_over_mountains sunrise",
  "cityscape_at_dusk|city_sunset sunset|city_sunrise rainbow bridge_at_night water_wave|ocean",
  "volcano milky_way globe_showing_europe-africa|earth_africa",
  "globe_showing_americas|earth_americas globe_showing_asia-australia|earth_asia",
  "globe_with_meridians new_moon waxing_crescent_moon first_quarter_moon",
  "waxing_gibbous_moon|moon full_moon waning_gibbous_moon last_quarter_moon",
  "waning_crescent_moon crescent_moon new_moon_face|new_moon_with_face",
  "first_quarter_moon_face|first_quarter_moon_with_face",
  "last_quarter_moon_face|last_quarter_moon_with_face full_moon_face|full_moon_with_face",
  "sun_with_face glowing_star|star2 shooting_star|stars thermometer =1f324",
  "sun_behind_small_cloud|white_sun_with_small_cloud",
  "sun_behind_large_cloud|white_sun_behind_cloud",
  "sun_behind_rain_cloud|white_sun_behind_cloud_with_rain cloud_with_rain cloud_with_snow",
  "cloud_with_lightning tornado|cloud_with_tornado fog wind_face|wind_blowing_face hot_dog taco",
  "burrito chestnut seedling evergreen_tree deciduous_tree palm_tree cactus hot_pepper tulip",
  "cherry_blossom rose hibiscus sunflower blossom ear_of_corn|corn sheaf_of_rice|ear_of_rice",
  "herb four_leaf_clover maple_leaf fallen_leaf leaf_fluttering_in_wind|leaves mushroom tomato",
  "eggplant grapes melon watermelon tangerine lemon banana pineapple red_apple|apple",
  "green_apple pear peach cherries strawberry hamburger pizza meat_on_bone poultry_leg",
  "rice_cracker rice_ball cooked_rice|rice curry_rice|curry steaming_bowl|ramen spaghetti bread",
  "french_fries|fries roasted_sweet_potato|sweet_potato dango oden sushi fried_shrimp",
  "fish_cake_with_swirl|fish_cake soft_ice_cream|icecream shaved_ice ice_cream doughnut cookie",
  "chocolate_bar candy lollipop custard honey_pot shortcake|cake bento_box|bento",
  "pot_of_food|stew cooking|egg fork_and_knife teacup_without_handle|tea sake wine_glass",
  "cocktail_glass|cocktail tropical_drink beer_mug|beer clinking_beer_mugs|beers baby_bottle",
  "fork_and_knife_with_plate bottle_with_popping_cork popcorn ribbon wrapped_gift|gift",
  "birthday_cake|birthday jack-o-lantern|jack_o_lantern christmas_tree santa fireworks sparkler",
  "balloon party_popper|tada confetti_ball tanabata_tree crossed_flags pine_decoration|bamboo",
  "japanese_dolls|dolls carp_streamer|flags wind_chime moon_viewing_ceremony|rice_scene",
  "school_backpack|school_satchel graduation_cap|mortar_board =1f396 military_medal",
  "reminder_ribbon =1f399 studio_microphone level_slider control_knobs =1f39e film_frames",
  "admission_tickets carousel_horse ferris_wheel roller_coaster",
  "fishing_pole|fishing_pole_and_fish microphone movie_camera cinema headphone|headphones",
  "artist_palette|art top_hat|tophat circus_tent ticket clapper_board|clapper performing_arts",
  "video_game direct_hit|dart slot_machine pool_8_ball|8ball game_die bowling",
  "flower_playing_cards musical_note musical_notes|notes saxophone guitar musical_keyboard",
  "trumpet violin musical_score running_shirt|running_shirt_with_sash tennis skis|ski",
  "basketball chequered_flag|checkered_flag =1f3c3 runner|running surfer sports_medal trophy",
  "=1f3c8 american_football|football rugby_football swimmer weight_lifter golfer",
  "motorcycle|racing_motorcycle racing_car cricket_game|cricket_bat_and_ball volleyball",
  "field_hockey|field_hockey_stick_and_ball ice_hockey|ice_hockey_stick_and_puck",
  "ping_pong|table_tennis_paddle_and_ball snow-capped_mountain|snow_capped_mountain camping",
  "beach_with_umbrella building_construction houses|house_buildings cityscape",
  "derelict_house|derelict_house_building classical_building desert desert_island national_park",
  "stadium house house_with_garden office_building|office japanese_post_office|post_office",
  "european_post_office hospital bank atm_sign|atm hotel love_hotel convenience_store school",
  "department_store factory red_paper_lantern|izakaya_lantern|lantern japanese_castle",
  "castle|european_castle =1f3f3 white_flag|waving_white_flag black_flag|waving_black_flag",
  "rosette =1f3f7 label badminton|badminton_racquet_and_shuttlecock bow_and_arrow amphora",
  "light_skin_tone|emoji_modifier_fitzpatrick_type__1__2",
  "medium_light_skin_tone|emoji_modifier_fitzpatrick_type__3",
  "medium_skin_tone|emoji_modifier_fitzpatrick_type__4",
  "medium_dark_skin_tone|emoji_modifier_fitzpatrick_type__5",
  "dark_skin_tone|emoji_modifier_fitzpatrick_type__6 rat mouse2 ox water_buffalo cow2 tiger2",
  "leopard rabbit2 cat2 dragon crocodile whale2 snail snake racehorse ram goat ewe|sheep monkey",
  "rooster chicken dog2 pig2 boar elephant octopus spiral_shell|shell bug ant honeybee|bee",
  "lady_beetle|beetle fish tropical_fish blowfish turtle hatching_chick baby_chick",
  "front-facing_baby_chick|hatched_chick bird penguin koala poodle dromedary_camel",
  "camel|two-hump_camel dolphin|flipper mouse|mouse_face cow|cow_face tiger|tiger_face",
  "rabbit|rabbit_face cat|cat_face dragon_face spouting_whale|whale horse|horse_face",
  "monkey_face dog|dog_face pig|pig_face frog_face|frog hamster_face|hamster wolf_face|wolf",
  "bear_face|bear panda_face pig_nose paw_prints|feet chipmunk eyes eye =1f444 mouth|lips",
  "tongue point_up_2 point_down point_left point_right facepunch|punch wave =1f44d +1|thumbsup",
  "__1|-1|thumbsdown clap =1f451 crown woman’s_hat|womans_hat glasses|eyeglasses necktie",
  "t-shirt|shirt|tshirt jeans dress kimono bikini woman’s_clothes|womans_clothes purse handbag",
  "clutch_bag|pouch man’s_shoe|mans_shoe|shoe running_shoe|athletic_shoe",
  "high-heeled_shoe|high_heel woman’s_sandal|sandal woman’s_boot|boot footprints",
  "bust_in_silhouette busts_in_silhouette =1f46a family man_and_woman_holding_hands|couple",
  "two_men_holding_hands two_women_holding_hands cop people_with_bunny_ears|dancers =1f471",
  "person_with_blond_hair man_with_gua_pi_mao man_with_turban older_man older_woman =1f479",
  "ogre|japanese_ogre goblin|japanese_goblin ghost angel alien alien_monster|space_invader",
  "angry_face_with_horns|imp skull information_desk_person guardsman dancer lipstick nail_care",
  "massage haircut barber_pole|barber syringe pill kiss|kiss_mark love_letter ring",
  "gem_stone|gem couplekiss bouquet couple_with_heart wedding beating_heart|heartbeat",
  "broken_heart two_hearts sparkling_heart growing_heart|heartpulse heart_with_arrow|cupid",
  "blue_heart green_heart yellow_heart purple_heart heart_with_ribbon|gift_heart",
  "revolving_hearts heart_decoration diamond_with_a_dot|diamond_shape_with_a_dot_inside",
  "light_bulb|bulb anger_symbol|anger bomb zzz collision|boom sweat_droplets|sweat_drops",
  "droplet dashing_away|dash pile_of_poo|hankey|poop|shit muscle dizzy speech_balloon",
  "thought_balloon white_flower hundred_points|100 money_bag|moneybag currency_exchange",
  "heavy_dollar_sign credit_card yen_banknote|yen dollar_banknote|dollar euro_banknote|euro",
  "pound_banknote|pound money_with_wings chart_increasing_with_yen|chart seat",
  "laptop_computer|computer briefcase computer_disk|minidisc floppy_disk optical_disk|cd dvd",
  "file_folder open_file_folder page_with_curl page_facing_up date calendar|tear-off_calendar",
  "card_index chart_increasing|chart_with_upwards_trend",
  "chart_decreasing|chart_with_downwards_trend bar_chart clipboard pushpin round_pushpin",
  "paperclip straight_ruler triangular_ruler bookmark_tabs ledger notebook",
  "notebook_with_decorative_cover closed_book open_book|book green_book blue_book orange_book",
  "books name_badge scroll memo|pencil telephone_receiver pager fax_machine|fax",
  "satellite|satellite_antenna loudspeaker megaphone|mega outbox_tray inbox_tray package",
  "e-mail|e__mail incoming_envelope envelope_with_arrow",
  "closed_mailbox_with_lowered_flag|mailbox_closed closed_mailbox_with_raised_flag|mailbox",
  "open_mailbox_with_raised_flag|mailbox_with_mail",
  "open_mailbox_with_lowered_flag|mailbox_with_no_mail postbox postal_horn newspaper",
  "mobile_phone|iphone mobile_phone_with_arrow|calling vibration_mode mobile_phone_off",
  "no_mobile_phones antenna_bars|signal_strength camera camera_with_flash video_camera",
  "television|tv radio videocassette|vhs film_projector =1f4ff prayer_beads",
  "shuffle_tracks_button|twisted_rightwards_arrows repeat_button|repeat",
  "repeat_single_button|repeat_one clockwise_vertical_arrows|arrows_clockwise",
  "counterclockwise_arrows_button|arrows_counterclockwise dim_button|low_brightness",
  "bright_button|high_brightness muted_speaker|mute speaker_low_volume|speaker",
  "speaker_medium_volume|sound speaker_high_volume|loud_sound battery electric_plug",
  "magnifying_glass_tilted_left|mag magnifying_glass_tilted_right|mag_right",
  "locked_with_pen|lock_with_ink_pen locked_with_key|closed_lock_with_key key locked|lock",
  "unlocked|unlock bell bell_with_slash|no_bell bookmark link radio_button back_arrow|back",
  "end_arrow|end on!_arrow|on soon_arrow|soon top_arrow|top no_one_under_eighteen|underage",
  "keycap_10|ten input_latin_uppercase|capital_abcd input_latin_lowercase|abcd",
  "input_numbers|1234 input_symbols|symbols input_latin_letters|abc fire flashlight wrench",
  "hammer nut_and_bolt kitchen_knife|hocho|knife pistol|gun microscope telescope crystal_ball",
  "dotted_six-pointed_star|six_pointed_star japanese_symbol_for_beginner|beginner",
  "trident_emblem|trident black_square_button white_square_button red_circle",
  "blue_circle|large_blue_circle large_orange_diamond large_blue_diamond small_orange_diamond",
  "small_blue_diamond red_triangle_pointed_up|small_red_triangle",
  "red_triangle_pointed_down|small_red_triangle_down upwards_button|arrow_up_small",
  "downwards_button|arrow_down_small =1f549 om|om_symbol dove|dove_of_peace kaaba mosque",
  "synagogue menorah|menorah_with_nine_branches =1f550 one_o’clock|clock1 two_o’clock|clock2",
  "three_o’clock|clock3 four_o’clock|clock4 five_o’clock|clock5 six_o’clock|clock6",
  "seven_o’clock|clock7 eight_o’clock|clock8 nine_o’clock|clock9 ten_o’clock|clock10",
  "eleven_o’clock|clock11 twelve_o’clock|clock12 one-thirty|clock130 two-thirty|clock230",
  "three-thirty|clock330 four-thirty|clock430 five-thirty|clock530 six-thirty|clock630",
  "seven-thirty|clock730 eight-thirty|clock830 nine-thirty|clock930 ten-thirty|clock1030",
  "eleven-thirty|clock1130 twelve-thirty|clock1230 =1f56f candle mantelpiece_clock =1f573 hole",
  "man_in_business_suit_levitating sleuth_or_spy dark_sunglasses spider spider_web joystick",
  "=1f587 linked_paperclips =1f58a pen|lower_left_ballpoint_pen",
  "fountain_pen|lower_left_fountain_pen paintbrush|lower_left_paintbrush",
  "crayon|lower_left_crayon =1f590 raised_hand_with_fingers_splayed =1f595",
  "reversed_hand_with_middle_finger_extended",
  "raised_hand_with_part_between_middle_and_ring_fingers =1f5a4 black_heart desktop_computer",
  "=1f5a8 printer =1f5b1 computer_mouse|three_button_mouse trackball =1f5bc",
  "framed_picture|frame_with_picture =1f5c2 card_index_dividers card_file_box file_cabinet",
  "=1f5d1 wastebasket spiral_notepad|spiral_note_pad spiral_calendar|spiral_calendar_pad =1f5dc",
  "clamp|compression old_key rolled-up_newspaper|rolled__up_newspaper =1f5e1",
  "dagger|dagger_knife =1f5e3 speaking_head|speaking_head_in_silhouette =1f5e8",
  "left_speech_bubble =1f5ef right_anger_bubble =1f5f3 ballot_box_with_ballot =1f5fa world_map",
  "mount_fuji tokyo_tower statue_of_liberty japan|map_of_japan moai|moyai",
  "grinning_face|grinning beaming_face_with_smiling_eyes|grin face_with_tears_of_joy|joy",
  "grinning_face_with_big_eyes|smiley grinning_face_with_smiling_eyes|smile",
  "grinning_face_with_sweat|sweat_smile grinning_squinting_face|laughing|satisfied",
  "smiling_face_with_halo|innocent smiling_face_with_horns|smiling_imp winking_face|wink",
  "smiling_face_with_smiling_eyes|blush face_savoring_food|yum relieved_face|relieved",
  "smiling_face_with_heart-eyes|heart_eyes smiling_face_with_sunglasses|sunglasses",
  "smirking_face|smirk neutral_face expressionless_face|expressionless unamused_face|unamused",
  "downcast_face_with_sweat|sweat pensive_face|pensive confused_face|confused",
  "confounded_face|confounded kissing_face|kissing face_blowing_a_kiss|kissing_heart",
  "kissing_face_with_smiling_eyes|kissing_smiling_eyes",
  "kissing_face_with_closed_eyes|kissing_closed_eyes face_with_tongue|stuck_out_tongue",
  "winking_face_with_tongue|stuck_out_tongue_winking_eye",
  "squinting_face_with_tongue|stuck_out_tongue_closed_eyes disappointed_face|disappointed",
  "worried_face|worried angry_face|angry pouting_face|rage crying_face|cry",
  "persevering_face|persevere face_with_steam_from_nose|triumph",
  "sad_but_relieved_face|disappointed_relieved frowning_face_with_open_mouth|frowning",
  "anguished_face|anguished fearful_face|fearful weary_face|weary sleepy_face|sleepy tired_face",
  "grimacing_face|grimacing loudly_crying_face|sob face_with_open_mouth|open_mouth",
  "hushed_face|hushed anxious_face_with_sweat|cold_sweat face_screaming_in_fear|scream",
  "astonished_face|astonished flushed_face|flushed sleeping_face|sleeping dizzy_face",
  "face_without_mouth|no_mouth face_with_medical_mask|mask",
  "grinning_cat_face_with_smiling_eyes|smile_cat cat_face_with_tears_of_joy|joy_cat",
  "grinning_cat_face|smiley_cat smiling_cat_face_with_heart-eyes|heart_eyes_cat",
  "cat_face_with_wry_smile|smirk_cat kissing_cat_face|kissing_cat pouting_cat_face|pouting_cat",
  "crying_cat_face weary_cat_face|scream_cat slightly_frowning_face slightly_smiling_face",
  "upside-down_face|upside__down_face face_with_rolling_eyes no_good ok_woman bow",
  "see-no-evil_monkey|see_no_evil hear-no-evil_monkey|hear_no_evil",
  "speak-no-evil_monkey|speak_no_evil raising_hand raised_hands =1f64e person_with_pouting_face",
  "pray =1f680 rocket helicopter locomotive|steam_locomotive railway_car",
  "high-speed_train|bullettrain_side bullet_train|bullettrain_front train2 metro light_rail",
  "station tram train|tram_car bus oncoming_bus trolleybus bus_stop|busstop minibus ambulance",
  "fire_engine police_car oncoming_police_car taxi oncoming_taxi automobile|car|red_car",
  "oncoming_automobile sport_utility_vehicle|blue_car delivery_truck|truck articulated_lorry",
  "tractor monorail mountain_railway suspension_railway mountain_cableway aerial_tramway ship",
  "rowboat speedboat horizontal_traffic_light|traffic_light vertical_traffic_light construction",
  "police_car_light|rotating_light triangular_flag|triangular_flag_on_post door",
  "prohibited|no_entry_sign cigarette|smoking no_smoking",
  "litter_in_bin_sign|put_litter_in_its_place no_littering|do_not_litter potable_water",
  "non-potable_water|non__potable_water bicycle|bike no_bicycles bicyclist mountain_bicyclist",
  "walking no_pedestrians children_crossing men’s_room|mens women’s_room|womens restroom",
  "baby_symbol toilet water_closet|wc shower bath bathtub passport_control customs",
  "baggage_claim left_luggage =1f6cb couch_and_lamp sleeping_accommodation shopping_bags",
  "bellhop_bell bed place_of_worship stop_sign shopping_cart =1f6d5 hindu_temple =1f6e0",
  "hammer_and_wrench shield oil_drum motorway railway_track motor_boat =1f6e9 small_airplane",
  "=1f6eb airplane_departure airplane_arrival|airplane_arriving =1f6f3 passenger_ship",
  "kick_scooter motor_scooter canoe sled flying_saucer skateboard auto_rickshaw =1f7e0",
  "orange_circle yellow_circle green_circle purple_circle brown_circle red_square blue_square",
  "orange_square yellow_square green_square purple_square brown_square =1f90d white_heart",
  "brown_heart pinching_hand zipper-mouth_face|zipper__mouth_face",
  "money-mouth_face|money__mouth_face face_with_thermometer nerd_face thinking_face",
  "face_with_head-bandage|face_with_head__bandage robot_face|robot hugging_face =1f91d",
  "handshake =1f920 cowboy_hat_face clown_face nauseated_face rolling_on_the_floor_laughing",
  "drooling_face lying_face =1f927 sneezing_face face_with_raised_eyebrow star-struck zany_face",
  "shushing_face face_with_symbols_on_mouth face_with_hand_over_mouth face_vomiting",
  "exploding_head =1f93a person_fencing =1f93c people_wrestling =1f93f diving_mask",
  "wilted_flower drum clinking_glasses tumbler_glass spoon goal_net =1f947 1st_place_medal",
  "2nd_place_medal 3rd_place_medal boxing_glove martial_arts_uniform curling_stone lacrosse",
  "softball flying_disc croissant avocado cucumber bacon potato carrot baguette_bread",
  "green_salad shallow_pan_of_food stuffed_flatbread =1f95b glass_of_milk peanuts kiwi_fruit",
  "pancakes dumpling fortune_cookie takeout_box chopsticks bowl_with_spoon cup_with_straw",
  "coconut broccoli pie pretzel cut_of_meat sandwich canned_food leafy_green mango moon_cake",
  "bagel smiling_face_with_3_hearts yawning_face =1f973 partying_face woozy_face hot_face",
  "cold_face =1f97a pleading_face sari lab_coat goggles hiking_boot flat_shoe crab lion_face",
  "scorpion turkey unicorn_face eagle duck bat shark owl fox_face butterfly deer gorilla lizard",
  "rhinoceros shrimp squid giraffe zebra hedgehog sauropod t-rex cricket kangaroo llama peacock",
  "hippopotamus parrot raccoon lobster mosquito microbe badger swan =1f9a5 sloth otter",
  "orangutan skunk flamingo oyster =1f9ae guide_dog probing_cane red_hair curly_hair bald",
  "white_hair bone leg foot tooth superhero supervillain safety_vest ear_with_hearing_aid",
  "motorized_wheelchair manual_wheelchair mechanical_arm mechanical_leg cheese_wedge cupcake",
  "salt beverage_box garlic onion falafel waffle butter mate ice =1f9cd person_standing",
  "person_kneeling deaf_person face_with_monocle =1f9de genie zombie brain orange_heart",
  "billed_cap scarf gloves coat socks red_envelope firecracker jigsaw test_tube petri_dish dna",
  "compass abacus fire_extinguisher toolbox brick magnet luggage lotion_bottle thread yarn",
  "safety_pin teddy_bear broom basket roll_of_paper soap sponge receipt nazar_amulet =1fa70",
  "ballet_shoes one-piece_swimsuit briefs shorts =1fa78 drop_of_blood adhesive_bandage",
  "stethoscope =1fa80 yo-yo kite =1fa90 ringed_planet chair razor axe diya_lamp banjo"]

/-- Names of emoji, each followed by the code points of its symbol. -/
def sequenceRows : List String := [
  "cocos_(keeling)_islands 1f1e8.1f1e8 congo_-_brazzaville 1f1e8.1f1ec",
  "congo_-_kinshasa 1f1e8.1f1e9 czechia 1f1e8.1f1ff",
  "england 1f3f4.e0067.e0062.e0065.e006e.e0067.e007f guinea-bissau 1f1ec.1f1fc",
  "hong_kong_sar_china 1f1ed.1f1f0 macau_sar_china 1f1f2.1f1f4 myanmar_(burma) 1f1f2.1f1f2",
  "scotland 1f3f4.e0067.e0062.e0073.e0063.e0074.e007f timor-leste 1f1f9.1f1f1",
  "united_nations 1f1fa.1f1f3 wales 1f3f4.e0067.e0062.e0077.e006c.e0073.e007f",
  "bald_man 1f468.200d.1f9b2 bald_woman 1f469.200d.1f9b2",
  "couple_with_heart_man_man 1f468.200d.2764.fe0f.200d.1f468",
  "couple_with_heart_woman_man 1f469.200d.2764.fe0f.200d.1f468",
  "couple_with_heart_woman_woman 1f469.200d.2764.fe0f.200d.1f469",
  "curly-haired_man 1f468.200d.1f9b1 curly-haired_woman 1f469.200d.1f9b1",
  "eye_in_speech_bubble 1f441.fe0f.200d.1f5e8.fe0f keycap_# 23.fe0f.20e3 keycap_* 2a.fe0f.20e3",
  "kiss_man_man 1f468.200d.2764.fe0f.200d.1f48b.200d.1f468",
  "kiss_woman_man 1f469.200d.2764.fe0f.200d.1f48b.200d.1f468",
  "kiss_woman_woman 1f469.200d.2764.fe0f.200d.1f48b.200d.1f469",
  "man_bouncing_ball 26f9.fe0f.200d.2642.fe0f man_detective 1f575.fe0f.200d.2642.fe0f",
  "man_genie 1f9de.200d.2642.fe0f man_golfing 1f3cc.fe0f.200d.2642.fe0f",
  "man_in_manual_wheelchair 1f468.200d.1f9bd man_in_motorized_wheelchair 1f468.200d.1f9bc",
  "man_lifting_weights 1f3cb.fe0f.200d.2642.fe0f man_with_probing_cane 1f468.200d.1f9af",
  "man_zombie 1f9df.200d.2642.fe0f men_with_bunny_ears 1f46f.200d.2642.fe0f",
  "men_wrestling 1f93c.200d.2642.fe0f people_holding_hands 1f9d1.200d.1f91d.200d.1f9d1",
  "pirate_flag 1f3f4.200d.2620.fe0f rainbow_flag 1f3f3.fe0f.200d.1f308",
  "red-haired_man 1f468.200d.1f9b0 red-haired_woman 1f469.200d.1f9b0",
  "service_dog 1f415.200d.1f9ba white-haired_man 1f468.200d.1f9b3",
  "white-haired_woman 1f469.200d.1f9b3 woman_bouncing_ball 26f9.fe0f.200d.2640.fe0f",
  "woman_detective 1f575.fe0f.200d.2640.fe0f woman_genie 1f9de.200d.2640.fe0f",
  "woman_golfing 1f3cc.fe0f.200d.2640.fe0f woman_in_manual_wheelchair 1f469.200d.1f9bd",
  "woman_in_motorized_wheelchair 1f469.200d.1f9bc",
  "woman_lifting_weights 1f3cb.fe0f.200d.2640.fe0f woman_with_probing_cane 1f469.200d.1f9af",
  "woman_zombie 1f9df.200d.2640.fe0f women_with_bunny_ears 1f46f.200d.2640.fe0f",
  "women_wrestling 1f93c.200d.2640.fe0f keycap_asterisk 2a.20e3 keycap_number_sign 23.20e3",
  "flag_for_cocos__islands 1f1e8.1f1e8 flag_for_congo____brazzaville 1f1e8.1f1ec",
  "flag_for_congo____kinshasa 1f1e8.1f1e9 flag_for_czech_republic 1f1e8.1f1ff",
  "flag_for_guinea__bissau 1f1ec.1f1fc flag_for_hong_kong 1f1ed.1f1f0",
  "flag_for_japan 1f1ef.1f1f5 flag_for_macau 1f1f2.1f1f4 flag_for_myanmar 1f1f2.1f1f2",
  "flag_for_timor__leste 1f1f9.1f1f1 flag_for_turkey 1f1f9.1f1f7"]

/-- The members of families. -/
def familyRows : List String := [
  "man_boy man_boy_boy man_girl man_girl_boy man_girl_girl man_man_boy man_man_boy_boy",
  "man_man_girl man_man_girl_boy man_man_girl_girl man_woman_boy man_woman_boy_boy",
  "man_woman_girl man_woman_girl_boy man_woman_girl_girl woman_boy woman_boy_boy woman_girl",
  "woman_girl_boy woman_girl_girl woman_woman_boy woman_woman_boy_boy woman_woman_girl",
  "woman_woman_girl_boy woman_woman_girl_girl"]

/-- Names of emoji that come in the tones of skin, each followed by the code points of its symbol,
with a plus sign in the place of the tone.  Where the symbol without a tone is another one, it is in
`sequenceRows`. -/
def tonedRows : List String := [
  "mrs._claus 1f936.+ ok_hand 1f44c.+ santa_claus 1f385.+ adult 1f9d1.+ baby_angel 1f47c.+",
  "baby 1f476.+ backhand_index_pointing_down 1f447.+ backhand_index_pointing_left 1f448.+",
  "backhand_index_pointing_right 1f449.+ backhand_index_pointing_up 1f446.+",
  "bearded_person 1f9d4.+ blond-haired_man 1f471.+.200d.2642.fe0f blond-haired_person 1f471.+",
  "blond-haired_woman 1f471.+.200d.2640.fe0f boy 1f466.+ breast-feeding 1f931.+",
  "bride_with_veil 1f470.+ call_me_hand 1f919.+ child 1f9d2.+ clapping_hands 1f44f.+",
  "construction_worker 1f477.+ crossed_fingers 1f91e.+ detective 1f575.+ ear 1f442.+",
  "elf 1f9dd.+ fairy 1f9da.+ flexed_biceps 1f4aa.+ folded_hands 1f64f.+ girl 1f467.+",
  "guard 1f482.+ hand_with_fingers_splayed 1f590.+ horse_racing 1f3c7.+",
  "index_pointing_up 261d.+ left-facing_fist 1f91b.+ love-you_gesture 1f91f.+ mage 1f9d9.+",
  "man_dancing 1f57a.+ man 1f468.+ man_in_suit_levitating 1f574.+ man_in_tuxedo 1f935.+",
  "man_with_chinese_cap 1f472.+ mermaid 1f9dc.+.200d.2640.fe0f merman 1f9dc.+.200d.2642.fe0f",
  "merperson 1f9dc.+ middle_finger 1f595.+ nail_polish 1f485.+ nose 1f443.+ old_man 1f474.+",
  "old_woman 1f475.+ older_adult 1f9d3.+ oncoming_fist 1f44a.+ open_hands 1f450.+",
  "palms_up_together 1f932.+ person_biking 1f6b4.+ person_bouncing_ball 26f9.+",
  "person_bowing 1f647.+ person_cartwheeling 1f938.+ person_climbing 1f9d7.+",
  "person_facepalming 1f926.+ person_frowning 1f64d.+ person_gesturing_no 1f645.+",
  "person_gesturing_ok 1f646.+ person_getting_haircut 1f487.+ person_getting_massage 1f486.+",
  "person_golfing 1f3cc.+ person_in_bed 1f6cc.+ person_in_lotus_position 1f9d8.+",
  "person_in_steamy_room 1f9d6.+ person_juggling 1f939.+ person_lifting_weights 1f3cb.+",
  "person_mountain_biking 1f6b5.+ person_playing_handball 1f93e.+",
  "person_playing_water_polo 1f93d.+ person_pouting 1f64e.+ person_raising_hand 1f64b.+",
  "person_rowing_boat 1f6a3.+ person_running 1f3c3.+ person_shrugging 1f937.+",
  "person_surfing 1f3c4.+ person_swimming 1f3ca.+ person_taking_bath 1f6c0.+",
  "person_tipping_hand 1f481.+ person_walking 1f6b6.+ person_wearing_turban 1f473.+",
  "police_officer 1f46e.+ pregnant_woman 1f930.+ prince 1f934.+ princess 1f478.+",
  "raised_back_of_hand 1f91a.+ raised_fist 270a.+ raised_hand 270b.+ raising_hands 1f64c.+",
  "right-facing_fist 1f91c.+ selfie 1f933.+ sign_of_the_horns 1f918.+ snowboarder 1f3c2.+",
  "thumbs_down 1f44e.+ thumbs_up 1f44d.+ vampire 1f9db.+ victory_hand 270c.+",
  "vulcan_salute 1f596.+ waving_hand 1f44b.+ woman_dancing 1f483.+ woman 1f469.+",
  "woman_with_headscarf 1f9d5.+ writing_hand 270d.+"]

/-- What a man or a woman does, each followed by the code point of somebody who does it. -/
def genderedRows : List String := [
  "biking 1f6b4 bouncing_ball 26f9 bowing 1f647 cartwheeling 1f938 climbing 1f9d7",
  "construction_worker 1f477 detective 1f575 elf 1f9dd facepalming 1f926 fairy 1f9da",
  "frowning 1f64d gesturing_no 1f645 gesturing_ok 1f646 getting_haircut 1f487",
  "getting_massage 1f486 golfing 1f3cc guard 1f482 in_lotus_position 1f9d8 in_steamy_room 1f9d6",
  "juggling 1f939 lifting_weights 1f3cb mage 1f9d9 mountain_biking 1f6b5 playing_handball 1f93e",
  "playing_water_polo 1f93d police_officer 1f46e pouting 1f64e raising_hand 1f64b",
  "rowing_boat 1f6a3 running 1f3c3 shrugging 1f937 surfing 1f3c4 swimming 1f3ca",
  "tipping_hand 1f481 vampire 1f9db walking 1f6b6 wearing_turban 1f473"]

/-- What a man or a woman is, each followed by the code points of what belongs to it. -/
def tradeRows : List String := [
  "artist 1f3a8 astronaut 1f680 cook 1f373 factory_worker 1f3ed farmer 1f33e firefighter 1f692",
  "health_worker 2695.fe0f judge 2696.fe0f mechanic 1f527 office_worker 1f4bc pilot 2708.fe0f",
  "scientist 1f52c singer 1f3a4 student 1f393 teacher 1f3eb technologist 1f4bb"]

/-- The letters of the flags of countries, each followed by the name of the country. -/
def flagRows : List String := [
  "AF afghanistan AL albania DZ algeria AS american_samoa AD andorra AO angola AI anguilla",
  "AQ antarctica AG antigua_&_barbuda AR argentina AM armenia AW aruba AC ascension_island",
  "AU australia AT austria AZ azerbaijan BS bahamas BH bahrain BD bangladesh BB barbados",
  "BY belarus BE belgium BZ belize BJ benin BM bermuda BT bhutan BO bolivia",
  "BA bosnia_&_herzegovina BW botswana BV bouvet_island BR brazil",
  "IO british_indian_ocean_territory VG british_virgin_islands BN brunei BG bulgaria",
  "BF burkina_faso BI burundi KH cambodia CM cameroon CA canada IC canary_islands CV cape_verde",
  "BQ caribbean_netherlands KY cayman_islands CF central_african_republic EA ceuta_&_melilla",
  "TD chad CL chile CN china CX christmas_island CP clipperton_island CO colombia KM comoros",
  "CK cook_islands CR costa_rica HR croatia CU cuba CW curaçao CY cyprus CI côte_d’ivoire",
  "DK denmark DG diego_garcia DJ djibouti DM dominica DO dominican_republic EC ecuador EG egypt",
  "SV el_salvador GQ equatorial_guinea ER eritrea EE estonia ET ethiopia EU european_union",
  "FK falkland_islands FO faroe_islands FJ fiji FI finland FR france GF french_guiana",
  "PF french_polynesia TF french_southern_territories GA gabon GM gambia GE georgia DE germany",
  "GH ghana GI gibraltar GR greece GL greenland GD grenada GP guadeloupe GU guam GT guatemala",
  "GG guernsey GN guinea GY guyana HT haiti HM heard_&_mcdonald_islands HN honduras HU hungary",
  "IS iceland IN india ID indonesia IR iran IQ iraq IE ireland IM isle_of_man IL israel",
  "IT italy JM jamaica JE jersey JO jordan KZ kazakhstan KE kenya KI kiribati XK kosovo",
  "KW kuwait KG kyrgyzstan LA laos LV latvia LB lebanon LS lesotho LR liberia LY libya",
  "LI liechtenstein LT lithuania LU luxembourg MK macedonia MG madagascar MW malawi MY malaysia",
  "MV maldives ML mali MT malta MH marshall_islands MQ martinique MR mauritania MU mauritius",
  "YT mayotte MX mexico FM micronesia MD moldova MC monaco MN mongolia ME montenegro",
  "MS montserrat MA morocco MZ mozambique NA namibia NR nauru NP nepal NL netherlands",
  "NC new_caledonia NZ new_zealand NI nicaragua NE niger NG nigeria NU niue NF norfolk_island",
  "KP north_korea MP northern_mariana_islands NO norway OM oman PK pakistan PW palau",
  "PS palestinian_territories PA panama PG papua_new_guinea PY paraguay PE peru PH philippines",
  "PN pitcairn_islands PL poland PT portugal PR puerto_rico QA qatar RO romania RU russia",
  "RW rwanda RE réunion WS samoa SM san_marino SA saudi_arabia SN senegal RS serbia",
  "SC seychelles SL sierra_leone SG singapore SX sint_maarten SK slovakia SI slovenia",
  "SB solomon_islands SO somalia ZA south_africa GS south_georgia_&_south_sandwich_islands",
  "KR south_korea SS south_sudan ES spain LK sri_lanka BL st._barthélemy SH st._helena",
  "KN st._kitts_&_nevis LC st._lucia MF st._martin PM st._pierre_&_miquelon",
  "VC st._vincent_&_grenadines SD sudan SR suriname SJ svalbard_&_jan_mayen SZ swaziland",
  "SE sweden CH switzerland SY syria ST são_tomé_&_príncipe TW taiwan TJ tajikistan TZ tanzania",
  "TH thailand TG togo TK tokelau TO tonga TT trinidad_&_tobago TA tristan_da_cunha TN tunisia",
  "TM turkmenistan TC turks_&_caicos_islands TV tuvalu UM u.s._outlying_islands",
  "VI u.s._virgin_islands UG uganda UA ukraine AE united_arab_emirates GB united_kingdom",
  "US united_states UY uruguay UZ uzbekistan VU vanuatu VA vatican_city VE venezuela VN vietnam",
  "WF wallis_&_futuna EH western_sahara YE yemen ZM zambia ZW zimbabwe AX åland_islands"]

end SoapStubs.Console
