namespace LayeredSettings

/-- Pictures of persons and of parts of the body by name. They are also drawn in tones of skin. -/
def personPictures : List String := [
  "adult 1F9D1;baby 1F476;baby_angel 1F47C;backhand_index_pointing_down 1F447",
  "backhand_index_pointing_left 1F448;backhand_index_pointing_right 1F449",
  "backhand_index_pointing_up 1F446;bearded_person 1F9D4;blond-haired_man 1F471 200D 2642 FE0F",
  "blond-haired_person 1F471;blond-haired_woman 1F471 200D 2640 FE0F;boy 1F466",
  "breast-feeding 1F931;bride_with_veil 1F470;call_me_hand 1F919;child 1F9D2",
  "clapping_hands 1F44F;construction_worker 1F477;crossed_fingers 1F91E;detective 1F575",
  "ear 1F442;elf 1F9DD;fairy 1F9DA;flexed_biceps 1F4AA;folded_hands 1F64F;girl 1F467;guard 1F482",
  "hand_with_fingers_splayed 1F590;horse_racing 1F3C7;index_pointing_up 261D",
  "left-facing_fist 1F91B;love-you_gesture 1F91F;mage 1F9D9;man 1F468",
  "man_artist 1F468 200D 1F3A8;man_astronaut 1F468 200D 1F680;man_biking 1F6B4 200D 2642 FE0F",
  "man_bouncing_ball 26F9 FE0F 200D 2642 FE0F;man_bowing 1F647 200D 2642 FE0F",
  "man_cartwheeling 1F938 200D 2642 FE0F;man_climbing 1F9D7 200D 2642 FE0F",
  "man_construction_worker 1F477 200D 2642 FE0F;man_cook 1F468 200D 1F373;man_dancing 1F57A",
  "man_detective 1F575 FE0F 200D 2642 FE0F;man_elf 1F9DD 200D 2642 FE0F",
  "man_facepalming 1F926 200D 2642 FE0F;man_factory_worker 1F468 200D 1F3ED",
  "man_fairy 1F9DA 200D 2642 FE0F;man_farmer 1F468 200D 1F33E;man_firefighter 1F468 200D 1F692",
  "man_frowning 1F64D 200D 2642 FE0F;man_gesturing_no 1F645 200D 2642 FE0F",
  "man_gesturing_ok 1F646 200D 2642 FE0F;man_getting_haircut 1F487 200D 2642 FE0F",
  "man_getting_massage 1F486 200D 2642 FE0F;man_golfing 1F3CC FE0F 200D 2642 FE0F",
  "man_guard 1F482 200D 2642 FE0F;man_health_worker 1F468 200D 2695 FE0F",
  "man_in_lotus_position 1F9D8 200D 2642 FE0F;man_in_steamy_room 1F9D6 200D 2642 FE0F",
  "man_in_suit_levitating 1F574;man_in_tuxedo 1F935;man_judge 1F468 200D 2696 FE0F",
  "man_juggling 1F939 200D 2642 FE0F;man_lifting_weights 1F3CB FE0F 200D 2642 FE0F",
  "man_mage 1F9D9 200D 2642 FE0F;man_mechanic 1F468 200D 1F527",
  "man_mountain_biking 1F6B5 200D 2642 FE0F;man_office_worker 1F468 200D 1F4BC",
  "man_pilot 1F468 200D 2708 FE0F;man_playing_handball 1F93E 200D 2642 FE0F",
  "man_playing_water_polo 1F93D 200D 2642 FE0F;man_police_officer 1F46E 200D 2642 FE0F",
  "man_pouting 1F64E 200D 2642 FE0F;man_raising_hand 1F64B 200D 2642 FE0F",
  "man_rowing_boat 1F6A3 200D 2642 FE0F;man_running 1F3C3 200D 2642 FE0F",
  "man_scientist 1F468 200D 1F52C;man_shrugging 1F937 200D 2642 FE0F;man_singer 1F468 200D 1F3A4",
  "man_student 1F468 200D 1F393;man_surfing 1F3C4 200D 2642 FE0F",
  "man_swimming 1F3CA 200D 2642 FE0F;man_teacher 1F468 200D 1F3EB",
  "man_technologist 1F468 200D 1F4BB;man_tipping_hand 1F481 200D 2642 FE0F",
  "man_vampire 1F9DB 200D 2642 FE0F;man_walking 1F6B6 200D 2642 FE0F",
  "man_wearing_turban 1F473 200D 2642 FE0F;man_with_chinese_cap 1F472",
  "mermaid 1F9DC 200D 2640 FE0F;merman 1F9DC 200D 2642 FE0F;merperson 1F9DC;middle_finger 1F595",
  "mrs._claus 1F936;nail_polish 1F485;nose 1F443;ok_hand 1F44C;old_man 1F474;old_woman 1F475",
  "older_adult 1F9D3;oncoming_fist 1F44A;open_hands 1F450;palms_up_together 1F932",
  "person_biking 1F6B4;person_bouncing_ball 26F9;person_bowing 1F647;person_cartwheeling 1F938",
  "person_climbing 1F9D7;person_facepalming 1F926;person_frowning 1F64D",
  "person_gesturing_no 1F645;person_gesturing_ok 1F646;person_getting_haircut 1F487",
  "person_getting_massage 1F486;person_golfing 1F3CC;person_in_bed 1F6CC",
  "person_in_lotus_position 1F9D8;person_in_steamy_room 1F9D6;person_juggling 1F939",
  "person_lifting_weights 1F3CB;person_mountain_biking 1F6B5;person_playing_handball 1F93E",
  "person_playing_water_polo 1F93D;person_pouting 1F64E;person_raising_hand 1F64B",
  "person_rowing_boat 1F6A3;person_running 1F3C3;person_shrugging 1F937;person_surfing 1F3C4",
  "person_swimming 1F3CA;person_taking_bath 1F6C0;person_tipping_hand 1F481;person_walking 1F6B6",
  "person_wearing_turban 1F473;police_officer 1F46E;pregnant_woman 1F930;prince 1F934",
  "princess 1F478;raised_back_of_hand 1F91A;raised_fist 270A;raised_hand 270B",
  "raising_hands 1F64C;right-facing_fist 1F91C;santa_claus 1F385;selfie 1F933",
  "sign_of_the_horns 1F918;snowboarder 1F3C2;thumbs_down 1F44E;thumbs_up 1F44D;vampire 1F9DB",
  "victory_hand 270C;vulcan_salute 1F596;waving_hand 1F44B;woman 1F469",
  "woman_artist 1F469 200D 1F3A8;woman_astronaut 1F469 200D 1F680",
  "woman_biking 1F6B4 200D 2640 FE0F;woman_bouncing_ball 26F9 FE0F 200D 2640 FE0F",
  "woman_bowing 1F647 200D 2640 FE0F;woman_cartwheeling 1F938 200D 2640 FE0F",
  "woman_climbing 1F9D7 200D 2640 FE0F;woman_construction_worker 1F477 200D 2640 FE0F",
  "woman_cook 1F469 200D 1F373;woman_dancing 1F483;woman_detective 1F575 FE0F 200D 2640 FE0F",
  "woman_elf 1F9DD 200D 2640 FE0F;woman_facepalming 1F926 200D 2640 FE0F",
  "woman_factory_worker 1F469 200D 1F3ED;woman_fairy 1F9DA 200D 2640 FE0F",
  "woman_farmer 1F469 200D 1F33E;woman_firefighter 1F469 200D 1F692",
  "woman_frowning 1F64D 200D 2640 FE0F;woman_gesturing_no 1F645 200D 2640 FE0F",
  "woman_gesturing_ok 1F646 200D 2640 FE0F;woman_getting_haircut 1F487 200D 2640 FE0F",
  "woman_getting_massage 1F486 200D 2640 FE0F;woman_golfing 1F3CC FE0F 200D 2640 FE0F",
  "woman_guard 1F482 200D 2640 FE0F;woman_health_worker 1F469 200D 2695 FE0F",
  "woman_in_lotus_position 1F9D8 200D 2640 FE0F;woman_in_steamy_room 1F9D6 200D 2640 FE0F",
  "woman_judge 1F469 200D 2696 FE0F;woman_juggling 1F939 200D 2640 FE0F",
  "woman_lifting_weights 1F3CB FE0F 200D 2640 FE0F;woman_mage 1F9D9 200D 2640 FE0F",
  "woman_mechanic 1F469 200D 1F527;woman_mountain_biking 1F6B5 200D 2640 FE0F",
  "woman_office_worker 1F469 200D 1F4BC;woman_pilot 1F469 200D 2708 FE0F",
  "woman_playing_handball 1F93E 200D 2640 FE0F;woman_playing_water_polo 1F93D 200D 2640 FE0F",
  "woman_police_officer 1F46E 200D 2640 FE0F;woman_pouting 1F64E 200D 2640 FE0F",
  "woman_raising_hand 1F64B 200D 2640 FE0F;woman_rowing_boat 1F6A3 200D 2640 FE0F",
  "woman_running 1F3C3 200D 2640 FE0F;woman_scientist 1F469 200D 1F52C",
  "woman_shrugging 1F937 200D 2640 FE0F;woman_singer 1F469 200D 1F3A4",
  "woman_student 1F469 200D 1F393;woman_surfing 1F3C4 200D 2640 FE0F",
  "woman_swimming 1F3CA 200D 2640 FE0F;woman_teacher 1F469 200D 1F3EB",
  "woman_technologist 1F469 200D 1F4BB;woman_tipping_hand 1F481 200D 2640 FE0F",
  "woman_vampire 1F9DB 200D 2640 FE0F;woman_walking 1F6B6 200D 2640 FE0F",
  "woman_wearing_turban 1F473 200D 2640 FE0F;woman_with_headscarf 1F9D5;writing_hand 270D"]

end LayeredSettings
